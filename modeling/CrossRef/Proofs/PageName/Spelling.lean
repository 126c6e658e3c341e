import CrossRef.Content.PageName
import CrossRef.Proofs.Words

/-!
Spelled text: what becomes of a text whose Greek letters are replaced by their names, when a rule
says which names are kept apart from their neighbours.
-/

namespace CrossRef.PageName

/-- A Greek letter has an English name. -/
def isGreek (c : Char) : Bool :=
  (Text.greekName? c).isSome

/-- The letters and digits of ASCII and the Han characters belong to words of their own. -/
def isPlainWord (c : Char) : Bool :=
  c.isAlphanum || Text.isHan c

/-- The name of a Greek letter, and any other character itself. -/
def spelling (c : Char) : List Char :=
  match Text.greekName? c with
  | some name => name.toList
  | none => [c]

/-- A low line of the content is read as a space. -/
def unfenced (c : Char) : Char :=
  if c = fence then ' ' else c

/-- The text without its characters of zero width and with spaces for its low lines. -/
def bare (text : List Char) : List Char :=
  (text.filter (· ≠ zeroWidthSpace)).map unfenced

/-- A rule for gaps sees the two characters at the seam and the one before them. -/
abbrev GapRule := Option Char → Char → Char → Bool

/-- The rest of a text is spelled after a character that has been spelled. -/
def spellAfter (rule : GapRule) : Option Char → Char → List Char → List Char
  | _, _, [] => []
  | before, left, right :: rest =>
    (if rule before left right then [' '] else []) ++ spelling right ++
      spellAfter rule (some left) right rest

/-- Every character is spelled, and the rule says where a space stands between two of them. -/
def spell (rule : GapRule) : List Char → List Char
  | [] => []
  | first :: rest => spelling first ++ spellAfter rule none first rest

/-- A name is kept apart from words and from other names. -/
def needsGap (left right : Char) : Bool :=
  (isGreek left && (isPlainWord right || isGreek right)) ||
    (isGreek right && (isPlainWord left || isGreek left))

/-- One word character alone between two Greek letters. -/
def isEnclosed (before : Option Char) (left right : Char) : Bool :=
  before.any isGreek && isPlainWord left && isGreek right

/-- Every gap that is needed, whatever stands before it. -/
def fullRule : GapRule := fun _ left right => needsGap left right

/-- Every gap that is needed, save the one after an enclosed character: the gap before that
character has been filled with it as the right edge, and gaps do not overlap. -/
def scanRule : GapRule := fun before left right =>
  needsGap left right && !isEnclosed before left right

/-! Characters. -/

/-- The alphabet holds no character of another kind, and its names have two letters at least. -/
theorem greekAlphabet_spec : ∀ entry ∈ Text.greekAlphabet,
    isPlainWord entry.1 = false ∧ Text.isBlank entry.1 = false ∧ entry.1 ≠ fence ∧
      entry.1 ≠ zeroWidthSpace ∧ 2 ≤ entry.2.toList.length ∧
      ∀ c ∈ entry.2.toList, c.isAlphanum = true := by
  have checked : Text.greekAlphabet.all (fun entry =>
      !isPlainWord entry.1 && !Text.isBlank entry.1 && entry.1 != fence &&
        entry.1 != zeroWidthSpace && decide (2 ≤ entry.2.toList.length) &&
        entry.2.toList.all Char.isAlphanum) = true := by decide
  intro entry member
  simpa only [Bool.and_eq_true, Bool.not_eq_true', bne_iff_ne, decide_eq_true_eq,
    List.all_eq_true, and_assoc] using List.all_eq_true.mp checked entry member

/-- A name that is found stands in the alphabet. -/
theorem mem_greekAlphabet {c : Char} {name : String} (named : Text.greekName? c = some name) :
    (c, name) ∈ Text.greekAlphabet := by
  obtain ⟨before, after, equal, -⟩ := List.lookup_eq_some_iff.mp named
  rw [equal]
  simp

/-- A Greek letter is spelled by a name of at least two letters of ASCII. -/
theorem spelling_of_isGreek {c : Char} (greek : isGreek c = true) :
    ∃ first middle last, spelling c = first :: (middle ++ [last]) ∧
      ∀ letter ∈ spelling c, letter.isAlphanum = true := by
  obtain ⟨name, named⟩ := Option.isSome_iff_exists.mp greek
  obtain ⟨-, -, -, -, long, letters⟩ := greekAlphabet_spec _ (mem_greekAlphabet named)
  have spelled : spelling c = name.toList := by simp [spelling, named]
  rw [spelled]
  cases whole : name.toList with
  | nil => simp [whole] at long
  | cons first rest =>
      have filled : rest ≠ [] := by
        rintro rfl
        simp [whole] at long
      refine ⟨first, rest.dropLast, rest.getLast filled, ?_, by simpa [whole] using letters⟩
      rw [List.dropLast_append_getLast]

/-- Every other character is spelled by itself. -/
theorem spelling_of_not_isGreek {c : Char} (other : isGreek c = false) : spelling c = [c] := by
  have unnamed : Text.greekName? c = none := by simpa [isGreek] using other
  simp [spelling, unnamed]

/-- No spelling is empty. -/
theorem spelling_ne_nil (c : Char) : spelling c ≠ [] := by
  by_cases greek : isGreek c
  · obtain ⟨first, middle, last, spelled, -⟩ := spelling_of_isGreek greek
    simp [spelled]
  · simp [spelling_of_not_isGreek (by simpa using greek)]

/-- Letters and digits are words. -/
theorem isPlainWord_of_isAlphanum {c : Char} (letter : c.isAlphanum = true) :
    isPlainWord c = true := by
  simp [isPlainWord, letter]

/-- A Greek letter is no word of its own. -/
theorem isPlainWord_of_isGreek {c : Char} (greek : isGreek c = true) : isPlainWord c = false := by
  obtain ⟨name, named⟩ := Option.isSome_iff_exists.mp greek
  exact (greekAlphabet_spec _ (mem_greekAlphabet named)).1

/-- No word is Greek. -/
theorem isGreek_of_isPlainWord {c : Char} (plain : isPlainWord c = true) : isGreek c = false := by
  by_contra greek
  simp [isPlainWord_of_isGreek (by simpa using greek)] at plain

/-- A Greek letter is visible. -/
theorem isBlank_of_isGreek {c : Char} (greek : isGreek c = true) : Text.isBlank c = false := by
  obtain ⟨name, named⟩ := Option.isSome_iff_exists.mp greek
  exact (greekAlphabet_spec _ (mem_greekAlphabet named)).2.1

/-- The letters and digits of ASCII lie in three intervals. -/
theorem toNat_of_isAlphanum {c : Char} (letter : c.isAlphanum = true) :
    (65 ≤ c.toNat ∧ c.toNat ≤ 90) ∨ (97 ≤ c.toNat ∧ c.toNat ≤ 122) ∨
      (48 ≤ c.toNat ∧ c.toNat ≤ 57) := by
  change ((decide (65 ≤ c.val ∧ c.val ≤ 90) || decide (97 ≤ c.val) && decide (c.val ≤ 122)) ||
    decide (48 ≤ c.val) && decide (c.val ≤ 57)) = true at letter
  simpa [UInt32.le_iff_toNat_le, or_assoc] using letter

/-- No letter or digit of ASCII is blank. -/
theorem isBlank_of_isAlphanum {c : Char} (letter : c.isAlphanum = true) :
    Text.isBlank c = false := by
  have ranges := toNat_of_isAlphanum letter
  simp only [Text.isBlank, Bool.or_eq_false_iff, Bool.and_eq_false_iff, decide_eq_false_iff_not,
    beq_eq_false_iff_ne]
  omega

/-- A character of a block that lies between the blank characters is visible. -/
theorem isBlank_of_covers {blocks : Text.Intervals}
    (apart : ∀ block ∈ blocks, (0x1100 ≤ block.1 ∧ block.2 < 0x1680) ∨
      (0x2060 ≤ block.1 ∧ block.2 < 0x3000) ∨ 0x3000 < block.1)
    {c : Char} (covered : Text.covers blocks c.toNat = true) : Text.isBlank c = false := by
  obtain ⟨block, member, lower, upper⟩ := Text.exists_mem_of_covers covered
  have between := apart block member
  simp only [Text.isBlank, Bool.or_eq_false_iff, Bool.and_eq_false_iff, decide_eq_false_iff_not,
    beq_eq_false_iff_ne]
  omega

/-- No Han character is blank. -/
theorem isBlank_of_isHan {c : Char} (han : Text.isHan c = true) : Text.isBlank c = false :=
  isBlank_of_covers (by decide) han

/-- No word is blank. -/
theorem isBlank_of_isPlainWord {c : Char} (plain : isPlainWord c = true) :
    Text.isBlank c = false := by
  rcases Bool.or_eq_true_iff.mp plain with letter | han
  · exact isBlank_of_isAlphanum letter
  · exact isBlank_of_isHan han

/-- The spelling of a visible character is a word. -/
theorem isWord_spelling {c : Char} (visible : Text.isBlank c = false) :
    Text.IsWord (spelling c) := by
  refine ⟨spelling_ne_nil c, ?_⟩
  by_cases greek : isGreek c
  · obtain ⟨-, -, -, -, letters⟩ := spelling_of_isGreek greek
    exact fun letter member => isBlank_of_isAlphanum (letters letter member)
  · simpa [spelling_of_not_isGreek (by simpa using greek)] using visible

/-! Spelling by the rule of the scan. -/

/-- No blank character is Greek. -/
theorem isGreek_of_isBlank {c : Char} (blank : Text.isBlank c = true) : isGreek c = false := by
  by_contra greek
  simp [isBlank_of_isGreek (by simpa using greek)] at blank

/-- No blank character is a word. -/
theorem isPlainWord_of_isBlank {c : Char} (blank : Text.isBlank c = true) :
    isPlainWord c = false := by
  by_contra plain
  simp [isBlank_of_isPlainWord (by simpa using plain)] at blank

/-- Of the character before the seam the rule sees only whether it is Greek. -/
theorem spellAfter_scanRule_congr {before other : Option Char}
    (same : before.any isGreek = other.any isGreek) (left : Char) (rest : List Char) :
    spellAfter scanRule before left rest = spellAfter scanRule other left rest := by
  cases rest with
  | nil => rfl
  | cons right rest =>
      have seam : scanRule before left right = scanRule other left right := by
        simp only [scanRule, isEnclosed, same]
      rw [spellAfter, spellAfter, seam]

/-- After a blank character the text is spelled as from its start. -/
theorem spellAfter_blank (before : Option Char) {left : Char} (blank : Text.isBlank left = true)
    (rest : List Char) : spellAfter scanRule before left rest = spell scanRule rest := by
  have unnamed := isGreek_of_isBlank blank
  have other := isPlainWord_of_isBlank blank
  cases rest with
  | nil => rfl
  | cons right rest =>
      have noGap : scanRule before left right = false := by
        simp [scanRule, needsGap, unnamed, other]
      have same : (some left).any isGreek = none.any isGreek := by simp [unnamed]
      rw [spellAfter, spell, noGap, spellAfter_scanRule_congr same]
      simp

end CrossRef.PageName
