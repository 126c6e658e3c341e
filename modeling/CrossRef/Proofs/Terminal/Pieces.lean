import CrossRef.Proofs.Terminal.Emoji

/-!
What is seen of a text in a message is the text, thinned. It is the text itself exactly when nothing
in it is a tag, an escape, the code of an emoji or a control that is left out.
-/

namespace CrossRef.Markup

/-! Plain texts. -/

/-- A text without escapes. -/
def IsUnescaped (text : List Char) : Prop :=
  ¬['\\', '['] <:+: text

/-- Escapes lose their backslashes. -/
theorem isThinned_unescapeBrackets (text : List Char) :
    IsThinned text (unescapeBrackets text) := by
  fun_induction unescapeBrackets text with
  | case1 rest ih =>
      have bound := ih.weight_le
      exact Or.inr (by simp [weight_cons, isMark]; omega)
  | case2 c rest plain ih => exact ih.cons c
  | case3 => exact .refl []

theorem unescapeBrackets_eq_self_iff (text : List Char) :
    unescapeBrackets text = text ↔ IsUnescaped text := by
  fun_induction unescapeBrackets text with
  | case1 rest ih =>
      refine iff_of_false (fun same => by cases same) (fun unescaped => ?_)
      exact unescaped (List.prefix_append ['\\', '['] rest).isInfix
  | case2 c rest plain ih =>
      have apart : ¬['\\', '['] <+: c :: rest := by
        rintro ⟨behind, whole⟩
        obtain ⟨rfl, rfl⟩ := List.cons.inj whole
        exact plain behind rfl rfl
      rw [List.cons.injEq, ih, IsUnescaped, IsUnescaped, List.infix_cons_iff]
      simp [apart]
  | case3 => exact iff_of_true rfl (by simp [IsUnescaped])

/-- Controls are left out. -/
theorem isThinned_filter (text : List Char) : IsThinned text (text.filter (!isDropped ·)) := by
  induction text with
  | nil => exact .refl []
  | cons c rest ih =>
      cases dropped : isDropped c with
      | true =>
          have bound := ih.weight_le
          exact Or.inr (by simp [weight_cons, isMark, dropped]; omega)
      | false => simpa [dropped] using ih.cons c

theorem isThinned_plainText (text : List Char) : IsThinned text (plainText text) :=
  ((isThinned_unescapeBrackets text).trans (Emoji.isThinned_replaceCodes _)).trans
    (isThinned_filter _)

/-- A plain text is seen as it is exactly when each of its changes leaves it as it is. -/
theorem plainText_eq_self_iff (text : List Char) :
    plainText text = text ↔
      IsUnescaped text ∧ Emoji.replaceCodes text = text ∧ ∀ c ∈ text, isDropped c = false := by
  have kept : (∀ c ∈ text, isDropped c = false) ↔ text.filter (!isDropped ·) = text := by
    simp [List.filter_eq_self]
  rw [kept, ← unescapeBrackets_eq_self_iff]
  constructor
  · intro same
    have unescaped : unescapeBrackets text = text := by
      refine (isThinned_unescapeBrackets text).eq_of_trans ?_
      have later := (Emoji.isThinned_replaceCodes (unescapeBrackets text)).trans
        (isThinned_filter _)
      rwa [← plainText, same] at later
    rw [plainText, unescaped] at same
    have replaced : Emoji.replaceCodes text = text := by
      refine (Emoji.isThinned_replaceCodes text).eq_of_trans ?_
      have later := isThinned_filter (Emoji.replaceCodes text)
      rwa [same] at later
    rw [replaced] at same
    exact ⟨unescaped, replaced, same⟩
  · rintro ⟨unescaped, replaced, same⟩
    rw [plainText, unescaped, replaced, same]

/-- Nothing is seen of no text. -/
@[simp] theorem plainText_nil : plainText [] = [] := by
  simp [plainText, unescapeBrackets, Emoji.replaceCodes]

/-! Tags. -/

/-- No tag starts anywhere in the text. -/
def IsTagFree (text : List Char) : Prop :=
  Text.TakesNothing takeTag? text

@[simp] theorem isTagFree_nil : IsTagFree [] :=
  Text.takesNothing_nil rfl

/-- A tag starts at the first character, or behind it. -/
theorem isTagFree_cons {c : Char} {rest : List Char} :
    IsTagFree (c :: rest) ↔ takeTag? (c :: rest) = none ∧ IsTagFree rest :=
  Text.takesNothing_cons

/-- Tags start with a bracket. -/
theorem takeTag?_of_ne {c : Char} (other : c ≠ '[') (rest : List Char) :
    takeTag? (c :: rest) = none := by
  rw [takeTag?.eq_def]
  split
  · next equal =>
      cases equal
      exact absurd rfl other
  · rfl

/-- Text without an opening bracket in front of another text adds no tag. -/
theorem isTagFree_append_of_notMem {start : List Char} (noBracket : '[' ∉ start)
    (rest : List Char) : IsTagFree (start ++ rest) ↔ IsTagFree rest :=
  Text.takesNothing_append_iff (fun _ behind other => takeTag?_of_ne other behind) noBracket rest

/-- A tag stands between brackets. -/
theorem eq_of_takeTag? {text inside afterTag : List Char}
    (taken : takeTag? text = some (inside, afterTag)) :
    text = '[' :: (inside ++ ']' :: afterTag) := by
  rw [takeTag?.eq_def] at taken
  split at taken
  · next first rest =>
    split at taken
    · split at taken
      · next found =>
          cases taken
          rw [List.cons_append, ← found, List.takeWhile_append_dropWhile]
      · cases taken
    · cases taken
  · cases taken

/-! Messages. -/

variable {console : Console}

/-- The plain texts among pieces as they stand in the message. -/
def plainTexts : List Piece → List Char
  | [] => []
  | .plain text :: rest => text ++ plainTexts rest
  | .tag _ _ :: rest => plainTexts rest

@[simp] theorem plainTexts_append (first second : List Piece) :
    plainTexts (first ++ second) = plainTexts first ++ plainTexts second := by
  fun_induction plainTexts first <;> simp_all [plainTexts]

@[simp] theorem plainTexts_plainPiece (reversed : List Char) :
    plainTexts (plainPiece reversed) = reversed.reverse := by
  cases reversed <;> simp [plainPiece, plainTexts]

/-- What is seen of pieces are their plain texts, thinned. -/
theorem isThinned_textOf {opened : List OpenTag} {pieces : List Piece} {seen : List Char}
    (read : textOf console opened pieces = .ok seen) : IsThinned (plainTexts pieces) seen := by
  fun_induction textOf console opened pieces generalizing seen with
  | case1 opened =>
      cases read
      exact .refl []
  | case2 opened text rest ih =>
      cases further : textOf console opened rest with
      | error fault => simp [further, Except.map] at read
      | ok behind =>
          rw [further] at read
          cases read
          exact (isThinned_plainText text).append (ih further)
  | case3 opened position tag rest next turned ih =>
      -- A tag changes the open tags, and nothing that is seen.
      exact ih read
  | case4 => cases read

/-- The backslashes at the start of a text. -/
theorem takeWhile_slashes (text : List Char) :
    text.takeWhile (· = '\\') = List.replicate (text.takeWhile (· = '\\')).length '\\' :=
  List.eq_replicate_of_mem fun c member => by simpa using List.mem_takeWhile_imp member

/-- A text without tags is one plain piece; the tags of another take away some of its marks. -/
theorem piecesFrom_cases {bound : Nat} (position : Nat) (reversed : List Char) {text : List Char}
    (long : text.length < bound) :
    (IsTagFree text ∧
        piecesFrom bound position reversed text = plainPiece (text.reverse ++ reversed)) ∨
      (¬IsTagFree text ∧
        weight (plainTexts (piecesFrom bound position reversed text)) <
          weight (reversed.reverse ++ text)) := by
  fun_induction piecesFrom bound position reversed text with
  | case1 => exact absurd long (Nat.not_lt_zero _)
  | case2 => exact Or.inl ⟨isTagFree_nil, rfl⟩
  | case3 bound position reversed c rest slashes afterSlashes inside afterTag taken start next ih =>
      have whole : c :: rest =
          List.replicate slashes.length '\\' ++ '[' :: (inside ++ ']' :: afterTag) := by
        rw [← takeWhile_slashes, ← eq_of_takeTag? taken]
        exact List.takeWhile_append_dropWhile.symm
      have shorter : afterTag.length < bound := by
        have length := congrArg List.length whole
        simp only [List.length_append, List.length_cons, List.length_replicate] at length long
        omega
      have behind : weight (plainTexts (piecesFrom bound next [] afterTag)) ≤ weight afterTag := by
        rcases ih shorter with ⟨-, plain⟩ | ⟨-, less⟩
        · simp [plain]
        · exact Nat.le_of_lt less
      have bracket : isMark '[' = true := rfl
      have closing : isMark ']' = false := rfl
      refine Or.inr ⟨fun free => ?_, ?_⟩
      · cases (free _ (List.dropWhile_suffix _)).symm.trans taken
      rw [whole]
      -- An odd backslash is lost in front of the bracket, which is lost itself otherwise.
      split <;> simp [plainTexts, weight_cons, bracket, closing] <;> omega
  | case4 bound position reversed c rest slashes afterSlashes noTag noSlash ih =>
      have same : afterSlashes = c :: rest := by
        have whole : slashes ++ afterSlashes = c :: rest := List.takeWhile_append_dropWhile
        rwa [List.isEmpty_iff.mp noSlash, List.nil_append] at whole
      rw [same] at noTag
      rw [isTagFree_cons]
      rcases ih (Nat.lt_of_succ_lt_succ long) with ⟨free, plain⟩ | ⟨tagged, less⟩
      · exact Or.inl ⟨⟨noTag, free⟩, by simp [plain]⟩
      · exact Or.inr ⟨fun free => tagged free.2, by simpa using less⟩
  | case5 bound position reversed c rest slashes afterSlashes noTag someSlash ih =>
      have whole : c :: rest = List.replicate slashes.length '\\' ++ afterSlashes := by
        rw [← takeWhile_slashes]
        exact List.takeWhile_append_dropWhile.symm
      have shorter : afterSlashes.length < bound := by
        have length := congrArg List.length whole
        have positive : 0 < slashes.length := by simpa [List.length_pos_iff] using someSlash
        simp only [List.length_append, List.length_replicate] at length long
        omega
      have reversedSlashes : slashes.reverse = List.replicate slashes.length '\\' := by
        conv_lhs => rw [show slashes = _ from takeWhile_slashes _, List.reverse_replicate]
      rw [whole, isTagFree_append_of_notMem (by simp)]
      rcases ih shorter with ⟨free, plain⟩ | ⟨tagged, less⟩
      · refine Or.inl ⟨free, ?_⟩
        rw [plain]
        simp [← reversedSlashes]
      · exact Or.inr ⟨tagged, by simpa [reversedSlashes] using less⟩

/-- A plain piece is seen in front of what follows it. -/
theorem textOf_plainPiece (opened : List OpenTag) (reversed : List Char) (rest : List Piece) :
    textOf console opened (plainPiece reversed ++ rest) =
      (textOf console opened rest).map (plainText reversed.reverse ++ ·) := by
  cases reversed with
  | nil =>
      simp only [plainPiece, List.isEmpty_nil, if_true, List.nil_append, List.reverse_nil,
        plainText_nil]
      cases textOf console opened rest <;> rfl
  | cons c behind => rfl

section Text

variable {bound : Nat} {text : List Char} (position : Nat) (opened : List OpenTag)

/-- What is seen of a text is the text, thinned. -/
theorem isThinned_of_textOf (long : text.length < bound) {seen : List Char}
    (read : textOf console opened (piecesFrom bound position [] text) = .ok seen) :
    IsThinned text seen := by
  have thinned := isThinned_textOf read
  rcases piecesFrom_cases position [] long with ⟨-, plain⟩ | ⟨-, less⟩
  · simpa [plain] using thinned
  · exact Or.inr (Nat.lt_of_le_of_lt thinned.weight_le less)

/-- A text is seen as it is exactly when it has no tags and is a plain text that is seen as it
is. -/
theorem textOf_eq_self_iff (long : text.length < bound) :
    textOf console opened (piecesFrom bound position [] text) = .ok text ↔
      IsTagFree text ∧ plainText text = text := by
  rcases piecesFrom_cases position [] long with ⟨free, plain⟩ | ⟨tagged, less⟩
  · have read := @textOf_plainPiece console opened text.reverse []
    simp only [List.append_nil, List.reverse_reverse] at read plain
    simp [plain, read, textOf, Except.map, free]
  · refine iff_of_false (fun read => ?_) fun literal => tagged literal.1
    exact Nat.not_lt.mpr (isThinned_textOf read).weight_le less

end Text

end CrossRef.Markup
