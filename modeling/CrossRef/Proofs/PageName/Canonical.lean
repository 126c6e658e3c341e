import CrossRef.Proofs.PageName.GapScan
import CrossRef.Proofs.Spaced

/-!
Canonical names: the texts that are page names, which are also the texts that are their own page
names.
-/

namespace CrossRef.PageName

/-- A canonical name is a spaced text without fences, characters of zero width and Greek
letters. -/
structure IsCanonical (text : List Char) : Prop extends Text.IsSpaced text where
  noFence : fence ∉ text
  noZeroWidthSpace : zeroWidthSpace ∉ text
  noGreek : ∀ c ∈ text, isGreek c = false

/-! Names are canonical. -/

/-- A spelled text holds the spellings of its characters, and spaces. -/
theorem mem_spellAfter {rule : GapRule} {before : Option Char} {left c : Char} {rest : List Char}
    (member : c ∈ spellAfter rule before left rest) :
    c = ' ' ∨ ∃ original ∈ rest, c ∈ spelling original := by
  induction rest generalizing before left with
  | nil => simp [spellAfter] at member
  | cons right rest ih =>
      rw [spellAfter, List.mem_append, List.mem_append] at member
      rcases member with (gap | inside) | later
      · left
        split at gap <;> simp_all
      · exact Or.inr ⟨right, List.mem_cons_self, inside⟩
      · refine (ih later).imp_right ?_
        rintro ⟨original, found, inside⟩
        exact ⟨original, List.mem_cons_of_mem _ found, inside⟩

/-- The same holds of the whole text. -/
theorem mem_spell {rule : GapRule} {c : Char} {text : List Char} (member : c ∈ spell rule text) :
    c = ' ' ∨ ∃ original ∈ text, c ∈ spelling original := by
  cases text with
  | nil => simp [spell] at member
  | cons first rest =>
      rcases List.mem_append.mp member with inside | later
      · exact Or.inr ⟨first, List.mem_cons_self, inside⟩
      · refine (mem_spellAfter later).imp_right ?_
        rintro ⟨original, found, inside⟩
        exact ⟨original, List.mem_cons_of_mem _ found, inside⟩

/-- No spelling holds a Greek letter, and it holds a fence or a character of zero width only where
it spells one. -/
theorem canonical_of_mem_spelling {original c : Char} (member : c ∈ spelling original)
    (proper : original ≠ fence) (visible : original ≠ zeroWidthSpace) :
    c ≠ fence ∧ c ≠ zeroWidthSpace ∧ isGreek c = false := by
  by_cases greek : isGreek original
  · obtain ⟨-, -, -, -, letters⟩ := spelling_of_isGreek greek
    have plain := isPlainWord_of_isAlphanum (letters c member)
    refine ⟨ne_fence_of_isPlainWord plain, ?_, isGreek_of_isPlainWord plain⟩
    rintro rfl
    exact absurd plain (by decide)
  · have unnamed : isGreek original = false := by simpa using greek
    rw [spelling_of_not_isGreek unnamed, List.mem_singleton] at member
    subst member
    exact ⟨proper, visible, unnamed⟩

/-- A character of a name is a space, or it is none of those that names do without. -/
theorem canonical_of_mem_ofChars {text : List Char} {c : Char} (member : c ∈ ofChars text) :
    c ≠ fence ∧ c ≠ zeroWidthSpace ∧ isGreek c = false := by
  have space : ' ' ≠ fence ∧ ' ' ≠ zeroWidthSpace ∧ isGreek ' ' = false := by decide
  rw [ofChars_eq_spell] at member
  rcases Text.mem_collapseFrom ((Text.trim_isInfix _).subset member) with rfl | ⟨inside, -⟩
  · exact space
  · rcases mem_spell inside with rfl | ⟨original, found, spelled⟩
    · exact space
    · exact canonical_of_mem_spelling spelled (ne_fence_of_mem_bare found)
        (ne_zeroWidthSpace_of_mem_bare found)

/-- Every name is canonical. -/
theorem isCanonical_ofChars (text : List Char) : IsCanonical (ofChars text) where
  toIsSpaced := by
    rw [ofChars_eq_spell]
    exact Text.isSpaced_trim_collapse _
  noFence member := (canonical_of_mem_ofChars member).1 rfl
  noZeroWidthSpace member := (canonical_of_mem_ofChars member).2.1 rfl
  noGreek _ member := (canonical_of_mem_ofChars member).2.2

/-! Canonical texts are names. -/

/-- A text without fences and characters of zero width is bare. -/
theorem bare_eq_self {text : List Char} (noFence : fence ∉ text)
    (noZeroWidthSpace : zeroWidthSpace ∉ text) : bare text = text := by
  have kept : text.filter (· ≠ zeroWidthSpace) = text := by
    refine List.filter_eq_self.mpr fun c member => ?_
    simpa using fun equal : c = zeroWidthSpace => noZeroWidthSpace (equal ▸ member)
  have read : ∀ c ∈ text, unfenced c = c := fun c member =>
    if_neg fun equal : c = fence => noFence (equal ▸ member)
  rw [bare, kept, List.map_congr_left read, List.map_id']

/-- Without Greek letters the rest of a text is spelled by itself. -/
theorem spellAfter_eq_self (rest : List Char) (before : Option Char) (left : Char)
    (noGreek : ∀ c ∈ left :: rest, isGreek c = false) :
    spellAfter scanRule before left rest = rest := by
  induction rest generalizing before left with
  | nil => rfl
  | cons right rest ih =>
      have leftOther := noGreek left List.mem_cons_self
      have rightOther := noGreek right (List.mem_cons_of_mem _ List.mem_cons_self)
      have noGap : scanRule before left right = false := by
        simp [scanRule, needsGap, leftOther, rightOther]
      rw [spellAfter, noGap, spelling_of_not_isGreek rightOther,
        ih (some left) right fun c member => noGreek c (List.mem_cons_of_mem _ member)]
      rfl

/-- Without Greek letters a text is spelled by itself. -/
theorem spell_eq_self {text : List Char} (noGreek : ∀ c ∈ text, isGreek c = false) :
    spell scanRule text = text := by
  cases text with
  | nil => rfl
  | cons first rest =>
      rw [spell, spelling_of_not_isGreek (noGreek first List.mem_cons_self),
        spellAfter_eq_self rest none first noGreek]
      rfl

/-- A canonical text is its own name. -/
theorem ofChars_eq_self {text : List Char} (canonical : IsCanonical text) :
    ofChars text = text := by
  rw [ofChars_eq_spell, bare_eq_self canonical.noFence canonical.noZeroWidthSpace,
    spell_eq_self canonical.noGreek, Text.trim_collapse_eq_self canonical.toIsSpaced]

/-! Main result. -/

/-- Page names are exactly the canonical texts, whatever the content, the suffix and the edge; the
canonical texts are exactly those that are their own names, so naming a name changes nothing. -/
theorem pageName_canonical_image :
    (∀ (paragraph : Paragraph) (suffix : Option String) (edge : EdgeKind),
      IsCanonical (paragraph.pageName suffix edge).toList) ∧
    (∀ (page : String) (edge : EdgeKind),
      (Paragraph.ofText page).pageName none edge = page ↔ IsCanonical page.toList) ∧
    (∀ page : String, (∃ (paragraph : Paragraph) (suffix : Option String) (edge : EdgeKind),
      paragraph.pageName suffix edge = page) ↔ IsCanonical page.toList) ∧
    ∀ (paragraph : Paragraph) (suffix : Option String) (edge later : EdgeKind),
      (Paragraph.ofText (paragraph.pageName suffix edge)).pageName none later =
        paragraph.pageName suffix edge := by
  have image (paragraph : Paragraph) (suffix : Option String) (edge : EdgeKind) :
      IsCanonical (paragraph.pageName suffix edge).toList := by
    rw [Paragraph.pageName, String.toList_ofList]
    exact isCanonical_ofChars _
  have fixed (page : String) (edge : EdgeKind) :
      (Paragraph.ofText page).pageName none edge = page ↔ IsCanonical page.toList := by
    constructor
    · intro equal
      exact equal ▸ image (Paragraph.ofText page) none edge
    · intro canonical
      rw [pageName_ofText, ofChars_eq_self canonical, String.ofList_toList]
  refine ⟨image, fixed, fun page => ⟨?_, fun canonical => ?_⟩, fun paragraph suffix edge later =>
    (fixed _ later).mpr (image paragraph suffix edge)⟩
  · rintro ⟨paragraph, suffix, edge, rfl⟩
    exact image paragraph suffix edge
  · exact ⟨Paragraph.ofText page, none, .letter, (fixed page .letter).mpr canonical⟩

end CrossRef.PageName
