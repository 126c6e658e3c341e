import CrossRef.Proofs.PageName.GapScan

/-!
Names of joined texts: no rewriting reaches across white space or a low line, so the name of two
texts with a separator between them is their two names with a space between them. A suffix is
either part of the last word of the content or a text of its own.
-/

namespace CrossRef.PageName

/-- The name of a text without a suffix. -/
def nameOf (text : String) : String :=
  (Paragraph.ofText text).pageName none .letter

/-- Two names with a space between them; an empty name takes no part. -/
def joined (first second : String) : String :=
  " ".intercalate ([first, second].filter (· ≠ ""))

/-- A separator holds nothing but white space, low lines and characters of zero width, and it is
more than characters of zero width. -/
structure IsSeparator (between : List Char) : Prop where
  onlyBreaks : ∀ c ∈ between, Text.isBlank c = true ∨ c = fence ∨ c = zeroWidthSpace
  holdsBreak : ∃ c ∈ between, Text.isBlank c = true ∨ c = fence

/-! Separators. -/

/-- A bare text is put together from bare texts. -/
theorem bare_append (first second : List Char) :
    bare (first ++ second) = bare first ++ bare second := by
  simp only [bare, List.filter_append, List.map_append]

/-- White space stays blank, and low lines become blank. -/
theorem isBlank_unfenced {c : Char} (breaks : Text.isBlank c = true ∨ c = fence) :
    Text.isBlank (unfenced c) = true := by
  by_cases fenced : c = fence
  · rw [unfenced, if_pos fenced]
    exact Text.isBlank_space
  · rw [unfenced, if_neg fenced]
    exact breaks.resolve_right fenced

/-- A bare separator is blank. -/
theorem isBlank_of_mem_bare {between : List Char} (separator : IsSeparator between) {c : Char}
    (member : c ∈ bare between) : Text.isBlank c = true := by
  obtain ⟨original, kept, rfl⟩ := List.mem_map.mp member
  obtain ⟨inside, visible⟩ := List.mem_filter.mp kept
  refine isBlank_unfenced ?_
  rcases separator.onlyBreaks original inside with blank | fenced | zero
  · exact Or.inl blank
  · exact Or.inr fenced
  · exact absurd zero (by simpa using visible)

/-- Something is left of a bare separator. -/
theorem bare_ne_nil {between : List Char} (separator : IsSeparator between) :
    bare between ≠ [] := by
  obtain ⟨c, inside, breaks⟩ := separator.holdsBreak
  have visible : c ≠ zeroWidthSpace := by
    rintro rfl
    exact absurd breaks (by decide)
  have kept : c ∈ between.filter (· ≠ zeroWidthSpace) :=
    List.mem_filter.mpr ⟨inside, by simpa using visible⟩
  exact List.ne_nil_of_mem (List.mem_map_of_mem kept)

/-! Spelling across blank characters. -/

/-- A text is spelled on its own up to a blank character, and the rest as from its start. -/
theorem spellAfter_append_blank (first : List Char) (before : Option Char) (left : Char) {c : Char}
    (blank : Text.isBlank c = true) (rest : List Char) :
    spellAfter scanRule before left (first ++ c :: rest) =
      spellAfter scanRule before left first ++ c :: spell scanRule rest := by
  induction first generalizing before left with
  | nil =>
      have unnamed := isGreek_of_isBlank blank
      have noGap : scanRule before left c = false := by
        simp [scanRule, needsGap, unnamed, isPlainWord_of_isBlank blank]
      simp only [List.nil_append, spellAfter, noGap, Bool.false_eq_true, if_false,
        spelling_of_not_isGreek unnamed, spellAfter_blank _ blank, List.singleton_append]
  | cons right first ih =>
      rw [List.cons_append, spellAfter, ih, spellAfter]
      simp only [List.append_assoc]

/-- Both sides of a blank character are spelled on their own. -/
theorem spell_append_blank (first : List Char) {c : Char} (blank : Text.isBlank c = true)
    (rest : List Char) :
    spell scanRule (first ++ c :: rest) = spell scanRule first ++ c :: spell scanRule rest := by
  cases first with
  | nil =>
      simp only [List.nil_append, spell, spelling_of_not_isGreek (isGreek_of_isBlank blank),
        spellAfter_blank none blank, List.singleton_append]
  | cons left first =>
      rw [List.cons_append, spell, spellAfter_append_blank first none left blank, spell,
        List.append_assoc]

/-- Blank characters in front of a text add no word. -/
theorem words_spell_blanks_append {blanks : List Char}
    (blank : ∀ c ∈ blanks, Text.isBlank c = true) (rest : List Char) :
    Text.words (spell scanRule (blanks ++ rest)) = Text.words (spell scanRule rest) := by
  induction blanks with
  | nil => rfl
  | cons head tail ih =>
      have headBlank := blank head List.mem_cons_self
      have split := spell_append_blank [] headBlank (tail ++ rest)
      rw [List.nil_append] at split
      rw [List.cons_append, split, Text.words_append_blank _ _ headBlank,
        ih fun c member => blank c (List.mem_cons_of_mem _ member)]
      rfl

/-- The words of a name. -/
def wordsOf (text : List Char) : List (List Char) :=
  Text.words (spell scanRule (bare text))

/-- The words of two texts with a separator between them are the words of the one and then the
words of the other. -/
theorem wordsOf_separator (first second : List Char) {between : List Char}
    (separator : IsSeparator between) :
    wordsOf (first ++ between ++ second) = wordsOf first ++ wordsOf second := by
  obtain ⟨c, more, whole⟩ := List.exists_cons_of_ne_nil (bare_ne_nil separator)
  have blank : ∀ other ∈ c :: more, Text.isBlank other = true := fun other member =>
    isBlank_of_mem_bare separator (whole ▸ member)
  have start := blank c List.mem_cons_self
  rw [wordsOf, bare_append, bare_append, whole, List.append_assoc, List.cons_append,
    spell_append_blank _ start, Text.words_append_blank _ _ start,
    words_spell_blanks_append fun other member => blank other (List.mem_cons_of_mem _ member)]
  rfl

/-! Names as joined words. -/

/-- Words with spaces between them are something. -/
theorem intercalate_ne_empty {word : String} (filled : word ≠ "") (later : List String) :
    " ".intercalate (word :: later) ≠ "" := by
  intro empty
  cases later with
  | nil => exact filled (by simpa using empty)
  | cons next later =>
      rw [String.intercalate_cons_cons] at empty
      simp at empty

/-- Joined lists of words are the joined words of both lists. -/
theorem joined_intercalate {first second : List String} (firstFilled : ∀ word ∈ first, word ≠ "")
    (secondFilled : ∀ word ∈ second, word ≠ "") :
    joined (" ".intercalate first) (" ".intercalate second) =
      " ".intercalate (first ++ second) := by
  cases first with
  | nil =>
      cases second with
      | nil => rfl
      | cons word later =>
          have filled := intercalate_ne_empty (secondFilled word List.mem_cons_self) later
          simp [joined, filled]
  | cons head tail =>
      have headFilled := intercalate_ne_empty (firstFilled head List.mem_cons_self) tail
      cases second with
      | nil => simp [joined, headFilled]
      | cons word later =>
          have filled := intercalate_ne_empty (secondFilled word List.mem_cons_self) later
          rw [String.intercalate_append_of_ne_nil (List.cons_ne_nil _ _) (List.cons_ne_nil _ _)]
          simp [joined, headFilled, filled]

/-- The name of a text is its words with spaces between them. -/
theorem nameOf_eq_intercalate (text : String) :
    nameOf text = " ".intercalate ((wordsOf text.toList).map String.ofList) := by
  rw [nameOf, pageName_ofText, ofChars_eq_spell, Text.trim_collapse, ← String.toList_inj,
    String.toList_ofList, String.toList_intercalate, List.map_map]
  have same : String.toList ∘ String.ofList = id := funext fun _ => String.toList_ofList
  rw [same, List.map_id]
  rfl

/-- The words of a name are not empty. -/
theorem ofList_wordsOf_ne_empty {text : List Char} :
    ∀ word ∈ (wordsOf text).map String.ofList, word ≠ "" := by
  intro word member
  obtain ⟨letters, inside, rfl⟩ := List.mem_map.mp member
  have isWord := Text.isWord_of_mem_words inside
  intro empty
  exact isWord.1 (by simpa using congrArg String.toList empty)

/-- The name of two texts with a separator between them is the two names, joined. -/
theorem nameOf_separator (first second : String) {between : String}
    (separator : IsSeparator between.toList) :
    nameOf (first ++ between ++ second) = joined (nameOf first) (nameOf second) := by
  simp only [nameOf_eq_intercalate, String.toList_append, wordsOf_separator _ _ separator,
    List.map_append]
  rw [joined_intercalate ofList_wordsOf_ne_empty ofList_wordsOf_ne_empty]

/-! Suffixes. -/

/-- A page name is the name of the text that the content and the suffix make. -/
theorem pageName_eq_nameOf (paragraph : Paragraph) (suffix : Option String) (edge : EdgeKind) :
    paragraph.pageName suffix edge =
      nameOf (String.ofList (withSuffix paragraph.text.toList suffix edge)) := by
  rw [nameOf, pageName_ofText, String.toList_ofList, Paragraph.pageName]

/-- The space before a suffix is a separator. -/
theorem isSeparator_space : IsSeparator " ".toList where
  onlyBreaks c member := Or.inl (by rw [List.mem_singleton.mp member]; exact Text.isBlank_space)
  holdsBreak := ⟨' ', List.mem_singleton_self _, Or.inl Text.isBlank_space⟩

/-! Main result. -/

/-- The name of two texts with a separator between them is their names, joined. So without a
suffix a page name is the name of the content, a suffix that needs no space is named together with
the content, and any other suffix has a name of its own. -/
theorem pageName_composition :
    (∀ first between second : String, IsSeparator between.toList →
      nameOf (first ++ between ++ second) = joined (nameOf first) (nameOf second)) ∧
    ∀ (paragraph : Paragraph) (edge : EdgeKind),
      paragraph.pageName none edge = nameOf paragraph.text ∧
      paragraph.pageName (some "") edge = nameOf paragraph.text ∧
      ∀ suffix : String, suffix ≠ "" →
        paragraph.pageName (some suffix) edge =
          if edge = .cjk ∧ suffix.toList.head?.any Text.isUnspacedLetter = true then
            nameOf (paragraph.text ++ suffix)
          else joined (nameOf paragraph.text) (nameOf suffix) := by
  refine ⟨fun first between second separator => nameOf_separator first second separator,
    fun paragraph edge => ⟨?_, ?_, fun suffix filled => ?_⟩⟩
  · rw [pageName_eq_nameOf, withSuffix, String.ofList_toList]
  · rw [pageName_eq_nameOf, withSuffix, if_pos (by rfl), String.ofList_toList]
  · have notEmpty : suffix.isEmpty = false := by simpa using filled
    rw [pageName_eq_nameOf, withSuffix, notEmpty, if_neg Bool.false_ne_true]
    by_cases unspaced : edge = .cjk ∧ suffix.toList.head?.any Text.isUnspacedLetter = true
    · rw [if_pos unspaced, if_pos (by simpa using unspaced), ← String.toList_append,
        String.ofList_toList]
    · rw [if_neg unspaced, if_neg (by simpa using unspaced)]
      rw [← nameOf_separator _ _ isSeparator_space]
      congr 1
      rw [← String.toList_inj]
      simp

/-- A low line next to a character of zero width keeps two Greek letters apart, as any separator
does. -/
theorem pageName_composition_greek :
    IsSeparator "\u200B_".toList ∧
      nameOf ("α" ++ "\u200B_" ++ "β") = joined (nameOf "α") (nameOf "β") := by
  have letters : "\u200B_".toList = [zeroWidthSpace, fence] := rfl
  have separator : IsSeparator "\u200B_".toList := by
    rw [letters]
    exact ⟨by simp, fence, by simp, Or.inr rfl⟩
  exact ⟨separator, pageName_composition.1 "α" "\u200B_" "β" separator⟩

end CrossRef.PageName
