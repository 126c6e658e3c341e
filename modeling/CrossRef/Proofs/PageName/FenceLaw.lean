import CrossRef.Proofs.PageName.GapScan

/-!
The fence law: a fence between two words becomes a space, and every other fence disappears. The
scan keeps the law except after a word character alone between two Greek letters, and there it
loses exactly one space.
-/

namespace CrossRef.PageName

/-- The page name of a text by the fence law: every name is kept apart from each neighbour that is
a word or a Greek letter. -/
def fenceLaw (text : String) : String :=
  String.ofList (Text.trim (Text.collapse (spell fullRule (bare text.toList))))

/-- The number of word characters that stand alone between two Greek letters. -/
def enclosedCount : List Char → Nat
  | before :: left :: right :: rest =>
    (if isEnclosed (some before) left right then 1 else 0) +
      enclosedCount (left :: right :: rest)
  | _ => 0

/-- The next seam adds a character that is enclosed there. -/
theorem enclosedCount_seam (before : Option Char) (left right : Char) (rest : List Char) :
    enclosedCount (before.toList ++ left :: right :: rest) =
      (if isEnclosed before left right then 1 else 0) + enclosedCount (left :: right :: rest) := by
  cases before with
  | none => simp [isEnclosed]
  | some before => rfl

/-- At the end no character is enclosed. -/
theorem enclosedCount_end (before : Option Char) (left : Char) :
    enclosedCount (before.toList ++ [left]) = 0 := by
  cases before <;> rfl

/-- Characters are enclosed where one of them stands between two Greek letters. -/
theorem enclosedCount_ne_zero_iff (text : List Char) :
    enclosedCount text ≠ 0 ↔ ∃ before left right, [before, left, right] <:+: text ∧
      isEnclosed (some before) left right = true := by
  induction text with
  | nil => simp [enclosedCount]
  | cons before tail ih =>
      match tail, ih with
      | [], _ => simp [enclosedCount, List.infix_cons_iff]
      | [left], _ => simp [enclosedCount, List.infix_cons_iff]
      | left :: right :: rest, ih =>
          by_cases enclosed : isEnclosed (some before) left right
          · simp only [enclosedCount, enclosed, if_true]
            constructor
            · exact fun _ => ⟨before, left, right, ⟨[], rest, rfl⟩, enclosed⟩
            · omega
          · simp only [enclosedCount, enclosed, Bool.false_eq_true, if_false, Nat.zero_add, ih]
            constructor
            · rintro ⟨first, middle, last, inside, found⟩
              exact ⟨first, middle, last, inside.trans (List.suffix_cons _ _).isInfix, found⟩
            · rintro ⟨first, middle, last, inside, found⟩
              rcases List.infix_cons_iff.mp inside with start | inside
              · obtain ⟨after, equal⟩ := start
                simp only [List.cons_append, List.nil_append, List.cons.injEq] at equal
                obtain ⟨rfl, rfl, rfl, -⟩ := equal
                exact absurd found enclosed
              · exact ⟨first, middle, last, inside, found⟩

/-! Words of spelled texts. -/

/-- A gap stands between two visible characters. -/
theorem visible_of_needsGap {left right : Char} (gap : needsGap left right = true) :
    Text.isBlank left = false ∧ Text.isBlank right = false := by
  simp only [needsGap, Bool.or_eq_true, Bool.and_eq_true] at gap
  rcases gap with ⟨leftGreek, plain | greek⟩ | ⟨rightGreek, plain | greek⟩
  · exact ⟨isBlank_of_isGreek leftGreek, isBlank_of_isPlainWord plain⟩
  · exact ⟨isBlank_of_isGreek leftGreek, isBlank_of_isGreek greek⟩
  · exact ⟨isBlank_of_isPlainWord plain, isBlank_of_isGreek rightGreek⟩
  · exact ⟨isBlank_of_isGreek greek, isBlank_of_isGreek rightGreek⟩

/-- An enclosed character needs the gap after it. -/
theorem needsGap_of_isEnclosed {before : Option Char} {left right : Char}
    (enclosed : isEnclosed before left right = true) : needsGap left right = true := by
  simp only [isEnclosed, Bool.and_eq_true] at enclosed
  simp [needsGap, enclosed]

/-- Where nothing is enclosed the rules agree. -/
theorem scanRule_of_not_isEnclosed {before : Option Char} {left right : Char}
    (free : isEnclosed before left right = false) :
    scanRule before left right = fullRule before left right := by
  simp [scanRule, fullRule, free]

/-- A spelling starts with a visible character exactly when it spells one. -/
theorem head_spelling_append (c : Char) (rest : List Char) :
    (spelling c ++ rest).head?.any (!Text.isBlank ·) = !Text.isBlank c := by
  by_cases blank : Text.isBlank c
  · simp [spelling_of_not_isGreek (isGreek_of_isBlank blank)]
  · have visible : Text.isBlank c = false := by simpa using blank
    have isWord := isWord_spelling visible
    obtain ⟨first, later, whole⟩ := List.exists_cons_of_ne_nil isWord.1
    have firstVisible := isWord.2 first (by simp [whole])
    simp [whole, firstVisible, visible]

/-- A visible character is one more word when a blank character or a gap follows it. -/
theorem length_words_spellAfter (rule : GapRule) (before : Option Char) (left right : Char)
    (rest : List Char) (needed : rule before left right = true → needsGap left right = true) :
    (Text.words (spelling left ++ spellAfter rule before left (right :: rest))).length =
      (Text.words (spelling right ++ spellAfter rule (some left) right rest)).length +
        if !Text.isBlank left && (Text.isBlank right || rule before left right) then 1 else 0 := by
  rw [spellAfter]
  by_cases blank : Text.isBlank left
  · have noGap : rule before left right = false := by
      by_contra gap
      simp [(visible_of_needsGap (needed (by simpa using gap))).1] at blank
    rw [noGap, spelling_of_not_isGreek (isGreek_of_isBlank blank), List.singleton_append,
      Text.words_cons_blank blank]
    simp [blank]
  · have visible : Text.isBlank left = false := by simpa using blank
    rw [Text.length_words_append (isWord_spelling visible)]
    by_cases gap : rule before left right
    · simp [gap, visible, Text.words_cons_blank Text.isBlank_space, Text.isBlank_space]
    · have seam := head_spelling_append right (spellAfter rule (some left) right rest)
      simp only [gap, Bool.false_eq_true, if_false, List.nil_append, seam, visible]
      cases Text.isBlank right <;> rfl

/-- The law has one word more for each enclosed character. -/
theorem length_words_fullRule (rest : List Char) (before : Option Char) (left : Char) :
    (Text.words (spelling left ++ spellAfter fullRule before left rest)).length =
      (Text.words (spelling left ++ spellAfter scanRule before left rest)).length +
        enclosedCount (before.toList ++ left :: rest) := by
  induction rest generalizing before left with
  | nil => rw [enclosedCount_end]; rfl
  | cons right rest ih =>
      have later := ih (some left) right
      have full := length_words_spellAfter fullRule before left right rest id
      have scan := length_words_spellAfter scanRule before left right rest
        fun gap => by simp_all [scanRule]
      rw [Option.toList_some, List.singleton_append] at later
      rw [full, scan, later, enclosedCount_seam]
      by_cases enclosed : isEnclosed before left right
      · have gap := needsGap_of_isEnclosed enclosed
        obtain ⟨leftVisible, rightVisible⟩ := visible_of_needsGap gap
        simp [fullRule, scanRule, gap, enclosed, leftVisible, rightVisible]
        omega
      · simp only [scanRule_of_not_isEnclosed (by simpa using enclosed), enclosed,
          Bool.false_eq_true, if_false]
        omega

/-- The law for a whole text has one word more for each enclosed character. -/
theorem length_words_spell (text : List Char) :
    (Text.words (spell fullRule text)).length =
      (Text.words (spell scanRule text)).length + enclosedCount text := by
  cases text with
  | nil => rfl
  | cons first rest => exact length_words_fullRule rest none first

/-- Where no character is enclosed the scan keeps the law. -/
theorem spellAfter_fullRule_eq (rest : List Char) (before : Option Char) (left : Char)
    (none : enclosedCount (before.toList ++ left :: rest) = 0) :
    spellAfter fullRule before left rest = spellAfter scanRule before left rest := by
  induction rest generalizing before left with
  | nil => rfl
  | cons right rest ih =>
      rw [enclosedCount_seam, Nat.add_eq_zero_iff] at none
      obtain ⟨seam, later⟩ := none
      have free : isEnclosed before left right = false := by simpa using seam
      rw [spellAfter, spellAfter, ih (some left) right later, scanRule_of_not_isEnclosed free]

/-- The names by the scan and by the law are the same exactly when no character is enclosed. -/
theorem trim_collapse_spell_eq_iff (text : List Char) :
    Text.trim (Text.collapse (spell scanRule text)) =
      Text.trim (Text.collapse (spell fullRule text)) ↔ enclosedCount text = 0 := by
  cases text with
  | nil => exact ⟨fun _ => rfl, fun _ => rfl⟩
  | cons first rest =>
      constructor
      · intro equal
        have words := (Text.trim_collapse_eq_iff _ _).mp equal
        have lengths := length_words_spell (first :: rest)
        rw [words] at lengths
        omega
      · intro free
        rw [spell, spell, spellAfter_fullRule_eq rest none first free]

/-! Enclosed characters of the content. -/

/-- A visible character is no space. -/
theorem ne_space_of_visible {c : Char} (visible : Text.isBlank c = false) : c ≠ ' ' := by
  rintro rfl
  simp [Text.isBlank_space] at visible

/-- A character that is read as itself stands in the content. -/
theorem eq_of_unfenced_eq {c original : Char} (proper : c ≠ ' ') (equal : unfenced original = c) :
    original = c := by
  by_cases fenced : original = fence
  · rw [unfenced, if_pos fenced] at equal
    exact absurd equal.symm proper
  · rwa [unfenced, if_neg fenced] at equal

/-- Low lines play no part in what is enclosed, so the content itself can be searched. -/
theorem enclosedCount_bare_ne_zero_iff (text : List Char) :
    enclosedCount (bare text) ≠ 0 ↔ ∃ before left right,
      [before, left, right] <:+: text.filter (· ≠ zeroWidthSpace) ∧
        isGreek before = true ∧ isPlainWord left = true ∧ isGreek right = true := by
  rw [enclosedCount_ne_zero_iff]
  constructor
  · rintro ⟨before, left, right, inside, enclosed⟩
    simp only [isEnclosed, Option.any_some, Bool.and_eq_true] at enclosed
    obtain ⟨⟨beforeGreek, plain⟩, rightGreek⟩ := enclosed
    obtain ⟨original, found, equal⟩ := List.infix_map_iff.mp inside
    obtain ⟨first, later, rfl, firstEqual, equal⟩ := List.map_eq_cons_iff.mp equal.symm
    obtain ⟨middle, later, rfl, middleEqual, equal⟩ := List.map_eq_cons_iff.mp equal
    obtain ⟨last, later, rfl, lastEqual, equal⟩ := List.map_eq_cons_iff.mp equal
    rw [List.map_eq_nil_iff.mp equal] at found
    rw [eq_of_unfenced_eq (ne_space_of_visible (isBlank_of_isGreek beforeGreek)) firstEqual,
      eq_of_unfenced_eq (ne_space_of_visible (isBlank_of_isPlainWord plain)) middleEqual,
      eq_of_unfenced_eq (ne_space_of_visible (isBlank_of_isGreek rightGreek)) lastEqual] at found
    exact ⟨before, left, right, found, beforeGreek, plain, rightGreek⟩
  · rintro ⟨before, left, right, inside, beforeGreek, plain, rightGreek⟩
    refine ⟨before, left, right, List.infix_map_iff.mpr ⟨[before, left, right], inside, ?_⟩, ?_⟩
    · simp [unfenced, ne_fence_of_isGreek beforeGreek, ne_fence_of_isPlainWord plain,
        ne_fence_of_isGreek rightGreek]
    · simp [isEnclosed, beforeGreek, plain, rightGreek]

/-! Main results. -/

/-- For every text the page name is spelled by the rule of the scan. The fence law has one word
more for each word character alone between two Greek letters, so the name obeys the law exactly
when there is no such character. -/
theorem pageName_fenceLaw (text : String) (edge : EdgeKind) :
    let page := (Paragraph.ofText text).pageName none edge
    page.toList = Text.trim (Text.collapse (spell scanRule (bare text.toList))) ∧
      (Text.words (fenceLaw text).toList).length =
        (Text.words page.toList).length + enclosedCount (bare text.toList) ∧
      (page = fenceLaw text ↔ enclosedCount (bare text.toList) = 0) := by
  intro page
  have spelled : page.toList = Text.trim (Text.collapse (spell scanRule (bare text.toList))) := by
    rw [show page = _ from pageName_ofText text edge, String.toList_ofList, ofChars_eq_spell]
  refine ⟨spelled, ?_, ?_⟩
  · rw [spelled, fenceLaw, String.toList_ofList, Text.words_trim_collapse,
      Text.words_trim_collapse, length_words_spell]
  · rw [← trim_collapse_spell_eq_iff, ← spelled, fenceLaw, ← String.toList_inj,
      String.toList_ofList]

/-- The letter between two Greek letters is glued to the second name. -/
theorem pageName_enclosed_letter :
    (Paragraph.ofText "αaβ").pageName none .letter = "alpha abeta" ∧
      fenceLaw "αaβ" = "alpha a beta" := by
  decide

/-- The page name differs from the fence law exactly on the texts in which, characters of zero
width aside, a word character stands alone between two Greek letters. -/
theorem pageName_ne_fenceLaw_iff (text : String) (edge : EdgeKind) :
    (Paragraph.ofText text).pageName none edge ≠ fenceLaw text ↔
      ∃ before left right, [before, left, right] <:+: text.toList.filter (· ≠ zeroWidthSpace) ∧
        isGreek before = true ∧ isPlainWord left = true ∧ isGreek right = true := by
  rw [← enclosedCount_bare_ne_zero_iff, ne_eq, pageName_ofText, fenceLaw, String.ofList_inj,
    ofChars_eq_spell, trim_collapse_spell_eq_iff]

end CrossRef.PageName
