import CrossRef.Proofs.Terminal.Layout
import CrossRef.Proofs.Terminal.Pieces

/-!
Messages that show a text as it is behind a lead of fixed styles. They show it so exactly when the
text is literal: it has no tags, no escapes, no emoji, and no controls.
-/

namespace CrossRef.Markup

variable {console : Console}

/-! Tabulators. -/

/-- Spaces take the place of tabulators. -/
theorem isThinned_expandTabs (part text : List Char) :
    IsThinned text (expandTabs console part text) := by
  fun_induction expandTabs console part text with
  | case1 => exact .refl []
  | case2 _ rest ih => exact ih.cons '\n'
  | case3 part rest ih =>
      have spaces (width : Nat) : weight (List.replicate width ' ') = 0 :=
        weight_eq_zero fun c member => by rw [(List.mem_replicate.mp member).2]; rfl
      have tab : isMark '\t' = true := rfl
      have bound := ih.weight_le
      exact Or.inr (by simp only [weight_append, weight_cons, spaces, tab, if_true]; omega)
  | case4 part c rest _ _ ih => exact ih.cons c

theorem expandTabs_eq_self_iff (part text : List Char) :
    expandTabs console part text = text ↔ '\t' ∉ text := by
  fun_induction expandTabs console part text with
  | case1 => simp
  | case2 _ rest ih => simp [ih]
  | case3 part rest ih =>
      have positive : 0 < tabWidth - console.columns part % tabWidth :=
        Nat.sub_pos_of_lt (Nat.mod_lt _ (by decide))
      obtain ⟨more, filled⟩ := Nat.exists_eq_succ_of_ne_zero (Nat.ne_of_gt positive)
      simp [filled, List.replicate_succ]
  | case4 part c rest _ noTab ih =>
      have other : '\t' ≠ c := fun equal => noTab equal.symm
      simp [ih, other]

/-! Literal texts. -/

/-- A text that a message shows as it is: it has no tags, no escapes of brackets, no codes of emoji,
and no controls. -/
structure IsLiteral (text : List Char) : Prop where
  noTag : IsTagFree text
  noEscape : IsUnescaped text
  noEmoji : Emoji.replaceCodes text = text
  noControl : ∀ c ∈ text, c ≠ '\t' ∧ isDropped c = false

theorem isLiteral_iff (text : List Char) :
    IsLiteral text ↔ (IsTagFree text ∧ plainText text = text) ∧ '\t' ∉ text := by
  rw [plainText_eq_self_iff]
  constructor
  · rintro ⟨noTag, noEscape, noEmoji, noControl⟩
    exact ⟨⟨noTag, noEscape, noEmoji, fun c member => (noControl c member).2⟩,
      fun member => (noControl _ member).1 rfl⟩
  · rintro ⟨⟨noTag, noEscape, noEmoji, kept⟩, noTab⟩
    exact ⟨noTag, noEscape, noEmoji,
      fun c member => ⟨fun equal => noTab (equal ▸ member), kept c member⟩⟩

instance (text : List Char) : Decidable (IsTagFree text) :=
  decidable_of_iff (∀ rest ∈ text.tails, takeTag? rest = none)
    (by simp [IsTagFree, Text.TakesNothing])

instance (text : List Char) : Decidable (IsUnescaped text) :=
  inferInstanceAs (Decidable (¬_))

instance (text : List Char) : Decidable (IsLiteral text) :=
  decidable_of_iff _ (isLiteral_iff text).symm

/-- Text without brackets is literal when its codes and controls are. -/
theorem isLiteral_of_notMem {text : List Char} (noBracket : '[' ∉ text)
    (noEmoji : Emoji.replaceCodes text = text)
    (noControl : ∀ c ∈ text, c ≠ '\t' ∧ isDropped c = false) : IsLiteral text where
  noTag := by
    have free := isTagFree_append_of_notMem noBracket []
    rw [List.append_nil] at free
    exact free.mpr isTagFree_nil
  noEscape within := noBracket (within.subset (by simp))
  noEmoji := noEmoji
  noControl := noControl

/-- Text without marks is literal. -/
theorem isLiteral_of_bare {text : List Char} (bare : ∀ c ∈ text, isMark c = false) :
    IsLiteral text := by
  have absent (mark : Char) (marks : isMark mark = true) : mark ∉ text := fun member => by
    cases (bare mark member).symm.trans marks
  refine isLiteral_of_notMem (absent _ rfl) (Emoji.replaceCodes_of_notMem (absent _ rfl))
    fun c member => ⟨fun tab => absent _ rfl (tab ▸ member), ?_⟩
  have plain := bare c member
  simp only [isMark, Bool.or_eq_false_iff] at plain
  exact plain.2

/-- A literal text that is no part of any markup: it has no brackets and no backslashes. -/
structure IsInert (text : List Char) : Prop extends IsLiteral text where
  noBracket : '[' ∉ text
  noSlash : '\\' ∉ text

/-- Text without marks is inert. -/
theorem isInert_of_bare {text : List Char} (bare : ∀ c ∈ text, isMark c = false) :
    IsInert text where
  toIsLiteral := isLiteral_of_bare bare
  noBracket member := by cases bare _ member
  noSlash member := by cases bare _ member

/-- A literal text is seen as it is. -/
theorem IsLiteral.plainText_eq {text : List Char} (literal : IsLiteral text) :
    plainText text = text :=
  ((isLiteral_iff text).mp literal).1.2

/-- Text without a closing bracket behind a space ends no tag. -/
theorem takeTag?_append_eq_none_iff {behind : List Char} (noEnd : ']' ∉ behind) (first : Char)
    (rest : List Char) :
    takeTag? (first :: rest ++ ' ' :: behind) = none ↔ takeTag? (first :: rest) = none := by
  by_cases bracket : first = '['
  · subst bracket
    rcases rest with _ | ⟨second, rest⟩
    · have noStart : startsTag ' ' = false := by decide
      simp [takeTag?, noStart]
    · cases starts : startsTag second with
      | false => simp [takeTag?, starts]
      | true =>
          simp only [List.cons_append, takeTag?, starts, if_true, List.dropWhile_append]
          cases stopped : rest.dropWhile (fun c => c != ']' && c != '[') with
          | cons last after =>
              by_cases closing : last = ']'
              · subst closing
                simp
              · simp [closing]
          | nil =>
              -- The scan goes on behind the space, and stops at no closing bracket.
              cases later : (' ' :: behind).dropWhile (fun c => c != ']' && c != '[') with
              | nil => simp
              | cons last after =>
                  have member : last ∈ ' ' :: behind := by
                    refine (List.dropWhile_suffix fun c => c != ']' && c != '[').subset ?_
                    rw [later]
                    exact List.mem_cons_self
                  have other : last ≠ ']' := by
                    rintro rfl
                    exact noEnd (by simpa using member)
                  simp [other]
  · rw [List.cons_append, takeTag?_of_ne bracket, takeTag?_of_ne bracket]

/-- No tag goes across a space when the text before it starts none, or the text behind it ends
none. -/
theorem isTagFree_append_iff {start behind : List Char} (apart : '[' ∉ start ∨ ']' ∉ behind) :
    IsTagFree (start ++ ' ' :: behind) ↔ IsTagFree start ∧ IsTagFree behind := by
  have space : IsTagFree (' ' :: behind) ↔ IsTagFree behind := by
    rw [isTagFree_cons, takeTag?_of_ne (by decide)]
    simp only [true_and]
  rcases apart with noStart | noEnd
  · have free := isTagFree_append_of_notMem noStart []
    rw [List.append_nil] at free
    rw [isTagFree_append_of_notMem noStart, space, free]
    simp only [isTagFree_nil, true_and]
  · induction start with
    | nil => simp [space]
    | cons first rest ih =>
        have first := takeTag?_append_eq_none_iff noEnd first rest
        simp only [List.cons_append, isTagFree_cons, ih, and_assoc] at first ⊢
        rw [first]

/-- Texts on both sides of a space are literal one by one, if no tag goes across it. -/
theorem isLiteral_append_iff {start behind : List Char} (apart : '[' ∉ start ∨ ']' ∉ behind) :
    IsLiteral (start ++ ' ' :: behind) ↔ IsLiteral start ∧ IsLiteral behind := by
  have blank : Text.isBlank ' ' = true := by decide
  have escapes : IsUnescaped (start ++ ' ' :: behind) ↔
      IsUnescaped start ∧ IsUnescaped behind := by
    rw [IsUnescaped, Text.infix_append_cons_iff (by decide), not_or]
    rfl
  have emoji : Emoji.replaceCodes (start ++ ' ' :: behind) = start ++ ' ' :: behind ↔
      Emoji.replaceCodes start = start ∧ Emoji.replaceCodes behind = behind := by
    rw [Emoji.replaceCodes_append blank]
    refine ⟨fun same => ?_, fun both => by rw [both.1, both.2]⟩
    have thinned := Emoji.isThinned_replaceCodes start
    have later := Emoji.isThinned_replaceCodes behind
    have total := congrArg weight same
    have bound := thinned.weight_le
    have other := later.weight_le
    simp only [weight_append, weight_cons] at total
    exact ⟨thinned.eq_of_weight_le (by omega), later.eq_of_weight_le (by omega)⟩
  have controls : (∀ c ∈ start ++ ' ' :: behind, c ≠ '\t' ∧ isDropped c = false) ↔
      (∀ c ∈ start, c ≠ '\t' ∧ isDropped c = false) ∧
        ∀ c ∈ behind, c ≠ '\t' ∧ isDropped c = false := by
    have space : ' ' ≠ '\t' ∧ isDropped ' ' = false := by decide
    rw [List.forall_mem_append, List.forall_mem_cons]
    exact and_congr_right fun _ => and_iff_right space
  constructor
  · rintro ⟨noTag, noEscape, noEmoji, noControl⟩
    obtain ⟨tag, laterTag⟩ := (isTagFree_append_iff apart).mp noTag
    obtain ⟨escape, laterEscape⟩ := escapes.mp noEscape
    obtain ⟨code, laterCode⟩ := emoji.mp noEmoji
    obtain ⟨control, laterControl⟩ := controls.mp noControl
    exact ⟨⟨tag, escape, code, control⟩, laterTag, laterEscape, laterCode, laterControl⟩
  · rintro ⟨first, second⟩
    exact ⟨(isTagFree_append_iff apart).mpr ⟨first.noTag, second.noTag⟩,
      escapes.mpr ⟨first.noEscape, second.noEscape⟩, emoji.mpr ⟨first.noEmoji, second.noEmoji⟩,
      controls.mpr ⟨first.noControl, second.noControl⟩⟩

/-- A space in front of a text changes nothing. -/
theorem isLiteral_space_iff (text : List Char) : IsLiteral (' ' :: text) ↔ IsLiteral text := by
  have nothing : IsLiteral [] := isLiteral_of_bare (by simp)
  have split := @isLiteral_append_iff [] text (Or.inl (by simp))
  rwa [List.nil_append, and_iff_right nothing] at split

/-! Leads. -/

/-- A tag is taken from the front of a text. -/
theorem takeTag?_inside {first : Char} {rest : List Char} (starts : startsTag first = true)
    (noBracket : ∀ c ∈ rest, (c != ']' && c != '[') = true) (text : List Char) :
    takeTag? ('[' :: (first :: rest ++ ']' :: text)) = some (first :: rest, text) := by
  have dropped : (rest ++ ']' :: text).dropWhile (fun c => c != ']' && c != '[') = ']' :: text := by
    rw [Text.dropWhile_append_cons (by decide), List.dropWhile_eq_nil_iff.mpr noBracket,
      List.nil_append]
  have taken : (rest ++ ']' :: text).takeWhile (fun c => c != ']' && c != '[') = rest := by
    rw [Text.takeWhile_append_cons (by decide), List.takeWhile_eq_self_iff.mpr noBracket]
  simp only [List.cons_append, takeTag?, starts, if_true, dropped, taken]

/-- A tag at the front of a text is a piece. -/
theorem piecesFrom_tag {text inside afterTag : List Char}
    (taken : takeTag? ('[' :: text) = some (inside, afterTag)) (bound position : Nat)
    (reversed : List Char) :
    piecesFrom (bound + 1) position reversed ('[' :: text) =
      plainPiece reversed ++ .tag position (.ofInside inside) ::
        piecesFrom bound (position + inside.length + 2) [] afterTag := by
  have nothing : plainPiece [] = [] := rfl
  rw [piecesFrom]
  simp [taken, nothing]

/-- Text without brackets and backslashes at the front is read on as it is. -/
theorem piecesFrom_append {start : List Char} (noBracket : '[' ∉ start) (noSlash : '\\' ∉ start)
    (bound position : Nat) (reversed text : List Char) :
    piecesFrom (start.length + bound) position reversed (start ++ text) =
      piecesFrom bound (position + start.length) (start.reverse ++ reversed) text := by
  induction start generalizing position reversed with
  | nil => simp
  | cons c rest ih =>
      rw [List.mem_cons, not_or] at noBracket noSlash
      have step : (c :: rest).length + bound = rest.length + bound + 1 := by
        rw [List.length_cons]
        omega
      have further := ih noBracket.2 noSlash.2 (position + 1) (c :: reversed)
      have place : position + 1 + rest.length = position + (rest.length + 1) := by omega
      rw [step, List.cons_append, piecesFrom]
      simp [Ne.symm noSlash.1, takeTag?_of_ne (Ne.symm noBracket.1), further, place]

/-- The pieces of a text with a tag behind inert text. -/
theorem exists_piecesFrom {start text inside afterTag : List Char} (inert : IsInert start)
    (taken : takeTag? ('[' :: text) = some (inside, afterTag)) (position : Nat) {bound : Nat}
    (long : (start ++ '[' :: text).length < bound) :
    ∃ fewer further, afterTag.length < fewer ∧
      piecesFrom bound position [] (start ++ '[' :: text) =
        plainPiece start.reverse ++ .tag (position + start.length) (.ofInside inside) ::
          piecesFrom fewer further [] afterTag := by
  have length := congrArg List.length (eq_of_takeTag? taken)
  simp only [List.length_append, List.length_cons] at length long
  obtain ⟨fewer, rfl⟩ : ∃ fewer, bound = start.length + (fewer + 1) :=
    ⟨bound - start.length - 1, by omega⟩
  have shorter : afterTag.length < fewer := by omega
  refine ⟨fewer, position + start.length + inside.length + 2, shorter, ?_⟩
  rw [piecesFrom_append inert.noBracket inert.noSlash, List.append_nil, piecesFrom_tag taken]

/-- A lead is seen as a text in front of whatever follows it. -/
def Leads (console : Console) (lead seen : List Char) : Prop :=
  ∀ bound position text, (lead ++ text).length < bound →
    ∃ fewer further, text.length < fewer ∧
      textOf console [] (piecesFrom bound position [] (lead ++ text)) =
        (textOf console [] (piecesFrom fewer further [] text)).map (seen ++ ·)

/-- Leads follow each other. -/
theorem Leads.append {lead seen other behind : List Char} (leads : Leads console lead seen)
    (others : Leads console other behind) :
    Leads console (lead ++ other) (seen ++ behind) := by
  intro bound position text long
  rw [List.append_assoc] at long ⊢
  obtain ⟨fewer, further, long, read⟩ := leads bound position (other ++ text) long
  obtain ⟨fewest, last, long, readBehind⟩ := others fewer further text long
  refine ⟨fewest, last, long, ?_⟩
  rw [read, readBehind]
  cases textOf console [] (piecesFrom fewest last [] text) <;> simp [Except.map]

/-- Without an equals sign a tag has no parameters. -/
theorem ofInside_of_notMem {inside : List Char} (noParameters : '=' ∉ inside) :
    Tag.ofInside inside = ⟨inside, none⟩ := by
  have name : inside.takeWhile (· ≠ '=') = inside :=
    List.takeWhile_eq_self_iff.mpr fun c member =>
      decide_eq_true fun equal => noParameters (equal ▸ member)
  simp only [Tag.ofInside, name, Nat.lt_irrefl, if_false]

/-- The name of a style that the console knows stands in a tag as it is. -/
structure IsStyle (console : Console) (name : List Char) : Prop where
  starts : name.head?.any (fun c => c.isLower && !Text.isBlank c) = true
  inTag : ∀ c ∈ name, c ≠ '[' ∧ c ≠ ']' ∧ c ≠ '='
  trimmed : Text.trim name = name
  known : ∃ normal, console.styleName name = .ok normal

/-- A text in a style. -/
def styled (name content : List Char) : List Char :=
  '[' :: (name ++ ']' :: (content ++ '[' :: ('/' :: name ++ [']'])))

section Styles

variable {name : List Char} (style : IsStyle console name)
include style

/-- The name of a style starts with a letter. -/
theorem IsStyle.exists_head :
    ∃ first, name.head? = some first ∧ first.isLower = true ∧ Text.isBlank first = false := by
  obtain ⟨first, head, starts⟩ := (Option.any_eq_true _ _).mp style.starts
  exact ⟨first, head, by simpa using starts⟩

/-- The tag that opens a style. -/
theorem takeTag?_opening (text : List Char) :
    takeTag? ('[' :: (name ++ ']' :: text)) = some (name, text) := by
  obtain ⟨first, head, letter, -⟩ := style.exists_head
  obtain ⟨rest, rfl⟩ := List.head?_eq_some_iff.mp head
  have starts : startsTag first = true := by simp [startsTag, letter]
  refine takeTag?_inside starts (fun c member => ?_) text
  obtain ⟨noStart, noEnd, -⟩ := style.inTag c (List.mem_cons_of_mem first member)
  simp [noStart, noEnd]

/-- The tag that closes a style. -/
theorem takeTag?_closing (text : List Char) :
    takeTag? ('[' :: ('/' :: name ++ ']' :: text)) = some ('/' :: name, text) := by
  have starts : startsTag '/' = true := rfl
  refine takeTag?_inside starts (fun c member => ?_) text
  obtain ⟨noStart, noEnd, -⟩ := style.inTag c member
  simp [noStart, noEnd]

/-- The tags of a style open it and close it again. -/
theorem turn_style :
    ∃ tag : OpenTag, ∀ opened position,
      turn console opened position ⟨name, none⟩ = .ok (tag :: opened) ∧
        turn console (tag :: opened) position ⟨'/' :: name, none⟩ = .ok opened := by
  obtain ⟨normal, known⟩ := style.known
  obtain ⟨first, head, letter, visible⟩ := style.exists_head
  obtain ⟨behind, rfl⟩ := List.head?_eq_some_iff.mp head
  have noSlash : first ≠ '/' := by
    rintro rfl
    cases letter
  refine ⟨⟨normal, none⟩, fun opened position => ⟨?_, ?_⟩⟩
  · rw [turn.eq_def]
    split
    · next found =>
        cases found
        exact absurd rfl noSlash
    · simp only [knownName, known]
      rfl
  · -- Without parameters nothing is read when a tag is closed.
    have closes : close console ⟨normal, none⟩ opened = .ok opened := by
      simp [close, OpenTag.handlerParameters?]
    simp [turn, Text.isAllBlank, visible, knownName, style.trimmed, known, Except.mapError, bind,
      Except.bind, closes]

/-- A style is opened and closed around plain text, and its tags are not seen. -/
theorem textOf_styled (opened : List OpenTag) (position closing : Nat) (reversed : List Char)
    (rest : List Piece) :
    textOf console opened (.tag position ⟨name, none⟩ ::
        (plainPiece reversed ++ .tag closing ⟨'/' :: name, none⟩ :: rest)) =
      (textOf console opened rest).map (plainText reversed.reverse ++ ·) := by
  obtain ⟨tag, turns⟩ := turn_style style
  rw [textOf, (turns opened position).1]
  simp only [textOf_plainPiece]
  rw [textOf, (turns opened closing).2]

/-- Inert text with inert text in a style behind it leads, and the tags of the style are not
seen. -/
theorem leads_styled {start content : List Char} (inertStart : IsInert start)
    (inert : IsInert content) :
    Leads console (start ++ styled name content) (start ++ content) := by
  intro bound position text long
  have whole : start ++ styled name content ++ text =
      start ++ '[' :: (name ++ ']' :: (content ++ '[' :: ('/' :: name ++ ']' :: text))) := by
    simp [styled]
  rw [whole] at long ⊢
  obtain ⟨fewer, further, long, opening⟩ :=
    exists_piecesFrom inertStart (takeTag?_opening style _) position long
  obtain ⟨fewest, last, long, closing⟩ :=
    exists_piecesFrom inert (takeTag?_closing style text) further long
  refine ⟨fewest, last, long, ?_⟩
  have noParameters : '=' ∉ name := fun member => (style.inTag _ member).2.2 rfl
  rw [opening, closing, ofInside_of_notMem noParameters,
    ofInside_of_notMem (by simp [noParameters]),
    textOf_plainPiece, textOf_styled style, List.reverse_reverse, List.reverse_reverse,
    inertStart.plainText_eq, inert.plainText_eq]
  cases textOf console [] (piecesFrom fewest last [] text) <;> simp [Except.map]

end Styles

/-! What is read and shown. -/

section Read

variable {lead seen : List Char} (leads : Leads console lead seen)
include leads

/-- Behind a lead a text is read by itself, and then tabulators are expanded. -/
theorem exists_read (text : List Char) :
    ∃ bound position, text.length < bound ∧
      read console (String.ofList (lead ++ text)) =
        (textOf console [] (piecesFrom bound position [] text)).map fun behind =>
          expandTabs console [] (seen ++ behind) := by
  obtain ⟨bound, position, long, found⟩ :=
    leads ((lead ++ text).length + 1) 0 text (Nat.lt_succ_self _)
  refine ⟨bound, position, long, ?_⟩
  rw [read, pieces, String.toList_ofList, found]
  cases textOf console [] (piecesFrom bound position [] text) <;> rfl

/-- What is read of a message is the lead and the text, thinned. -/
theorem isThinned_of_read {text line : List Char}
    (found : read console (String.ofList (lead ++ text)) = .ok line) :
    IsThinned (seen ++ text) line := by
  obtain ⟨bound, position, long, whole⟩ := exists_read leads text
  rw [whole] at found
  cases inside : textOf console [] (piecesFrom bound position [] text) with
  | error fault => simp [inside, Except.map] at found
  | ok behind =>
      rw [inside] at found
      cases found
      have thinned := isThinned_of_textOf position [] long inside
      exact ((IsThinned.refl seen).append thinned).trans (isThinned_expandTabs [] _)

/-- A text is read as it is behind a lead exactly when it is literal. -/
theorem read_eq_ok_iff (noTab : '\t' ∉ seen) (text : List Char) :
    read console (String.ofList (lead ++ text)) = .ok (seen ++ text) ↔ IsLiteral text := by
  obtain ⟨bound, position, long, whole⟩ := exists_read leads text
  rw [whole, isLiteral_iff, ← @textOf_eq_self_iff console _ _ position [] long]
  constructor
  · intro found
    cases inside : textOf console [] (piecesFrom bound position [] text) with
    | error fault => simp [inside, Except.map] at found
    | ok behind =>
        rw [inside] at found
        have line : expandTabs console [] (seen ++ behind) = seen ++ text :=
          Except.ok.inj found
        -- Neither the reading nor the tabulators have taken anything away.
        have thinned := (IsThinned.refl seen).append (isThinned_of_textOf position [] long inside)
        have expanded := @isThinned_expandTabs console [] (seen ++ behind)
        rw [line] at expanded
        have same := List.append_cancel_left (thinned.eq_of_trans expanded)
        rw [same, expandTabs_eq_self_iff, List.mem_append, not_or] at line
        exact ⟨congrArg Except.ok same, line.2⟩
  · rintro ⟨found, noTabBehind⟩
    have line := (@expandTabs_eq_self_iff console [] (seen ++ text)).mpr
      (by simp [noTab, noTabBehind])
    rw [found, Except.map, line]

end Read

end CrossRef.Markup
