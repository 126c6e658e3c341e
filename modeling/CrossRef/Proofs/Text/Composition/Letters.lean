import CrossRef.Text.Composition.Basic
import Mathlib.Data.List.Chain
import Mathlib.Data.Nat.Bitwise

/-!
Letters of a character: taking a character apart ends after three steps, its letters are not taken
apart any further, and a composite has the letters of the two characters that it stands for. The
facts about the tables are checked on sets of code points, each held as the bits of one number.
-/

namespace CrossRef.Text.Composition

/-! Sets of code points. -/

/-- The set of some code points, each of them one bit. -/
def codeSet (points : List Nat) : Nat :=
  points.foldr (fun point bits => bits ||| 1 <<< point) 0

/-- The bits of the set are its code points. -/
theorem testBit_codeSet (points : List Nat) (point : Nat) :
    (codeSet points).testBit point = true ↔ point ∈ points := by
  induction points with
  | nil => simp [codeSet]
  | cons first rest ih =>
      rw [codeSet, List.foldr_cons, Nat.testBit_or, Bool.or_eq_true, List.mem_cons, or_comm]
      refine or_congr ?_ ih
      rw [Nat.one_shiftLeft, Nat.testBit_two_pow, decide_eq_true_eq, eq_comm]

/-- Disjoint sets have no code point in common. -/
theorem not_testBit_of_and_eq_zero {first second : Nat} (disjoint : first &&& second = 0)
    {point : Nat} (inside : first.testBit point = true) : second.testBit point = false := by
  have none := congrArg (Nat.testBit · point) disjoint
  simpa [Nat.testBit_and, inside] using none

/-- The code points of an interval, given by the first of them and their number. -/
def intervalSet (first count : Nat) : Nat :=
  (2 ^ count - 1) <<< first

/-- The bits of an interval. -/
theorem testBit_intervalSet (first count point : Nat) :
    (intervalSet first count).testBit point = true ↔ first ≤ point ∧ point < first + count := by
  rw [intervalSet, Nat.testBit_shiftLeft, Nat.testBit_two_pow_sub_one]
  simp only [Bool.and_eq_true, decide_eq_true_eq]
  omega

/-! Which characters are taken apart. -/

/-- What the tables take apart, each with the characters that it falls into. -/
def expansions : List (Nat × List Nat) :=
  singletons.map (fun entry => (entry.1, [entry.2])) ++
    pairs.map fun entry => (entry.1, [entry.2.1, entry.2.2])

/-- The syllables of Hangul. -/
def syllableSet : Nat :=
  intervalSet syllableBase (19 * 21 * 28)

/-- The characters that some step takes apart. -/
def takenApart : Nat :=
  codeSet (expansions.map Prod.fst) ||| syllableSet

/-- The characters that fall into one of a set. -/
def fallsInto (set : Nat) : Nat :=
  codeSet ((expansions.filter fun entry => entry.2.any set.testBit).map Prod.fst)

/-- The characters that take two steps. -/
def takenApartTwice : Nat :=
  fallsInto takenApart

/-- The characters that take three steps. -/
def takenApartThrice : Nat :=
  fallsInto takenApartTwice

/-- What the proofs below have to know about the tables. -/
structure TablesAgree : Prop where
  /-- No character takes four steps. -/
  settled : fallsInto takenApartThrice = 0
  /-- The letters of Hangul are not taken apart. -/
  hangulLetters : intervalSet leadBase 256 &&& takenApart = 0
  /-- The tables say nothing about the syllables of Hangul. -/
  syllables : syllableSet &&& codeSet (expansions.map Prod.fst) = 0
  /-- No character stands in both tables. -/
  disjoint : codeSet (pairs.map Prod.fst) &&& codeSet (singletons.map Prod.fst) = 0
  /-- The table of pairs is in the order of its keys. -/
  sorted : (pairs.map Prod.fst).IsChain (· < ·)
  /-- The keys of the table of pairs are characters. -/
  valid : ∀ point ∈ pairs.map Prod.fst, point.isValidChar

/-- The tables are as they have to be. -/
theorem tablesAgree : TablesAgree where
  settled := by decide +kernel
  hangulLetters := by decide +kernel
  syllables := by decide +kernel
  disjoint := by decide +kernel
  sorted := by decide +kernel
  valid := by decide +kernel

/-- An entry of the table of single characters. -/
theorem mem_expansions_of_singletons {point other : Nat} (entry : (point, other) ∈ singletons) :
    (point, [other]) ∈ expansions :=
  List.mem_append_left _ (List.mem_map_of_mem (f := fun entry => (entry.1, [entry.2])) entry)

/-- An entry of the table of pairs. -/
theorem mem_expansions_of_pairs {point first second : Nat}
    (entry : (point, first, second) ∈ pairs) : (point, [first, second]) ∈ expansions :=
  List.mem_append_right _
    (List.mem_map_of_mem (f := fun entry => (entry.1, [entry.2.1, entry.2.2])) entry)

/-- What an entry takes apart is no letter. -/
theorem testBit_takenApart {point : Nat} {parts : List Nat}
    (entry : (point, parts) ∈ expansions) : takenApart.testBit point = true := by
  have key : point ∈ expansions.map Prod.fst := List.mem_map_of_mem (f := Prod.fst) entry
  rw [takenApart, Nat.testBit_or, (testBit_codeSet _ _).mpr key, Bool.true_or]

/-- An entry falls into a set when one of its parts lies there. -/
theorem testBit_fallsInto {set point part : Nat} {parts : List Nat}
    (entry : (point, parts) ∈ expansions) (member : part ∈ parts)
    (inside : set.testBit part = true) : (fallsInto set).testBit point = true := by
  have kept : (point, parts) ∈ expansions.filter fun entry => entry.2.any set.testBit :=
    List.mem_filter.mpr ⟨entry, List.any_eq_true.mpr ⟨part, member, inside⟩⟩
  exact (testBit_codeSet _ _).mpr (List.mem_map_of_mem (f := Prod.fst) kept)

/-! Taking characters apart. -/

/-- A letter is a character that a step does not take apart. -/
def IsLetter (point : Nat) : Prop :=
  lettersWithin 1 point = [point]

/-- No number of steps takes a letter apart. -/
theorem IsLetter.lettersWithin_eq {point : Nat} (letter : IsLetter point) (depth : Nat) :
    lettersWithin depth point = [point] := by
  induction depth with
  | zero => rfl
  | succ depth ih =>
      rw [IsLetter, lettersWithin] at letter
      rw [lettersWithin]
      split at letter
      · next other _ =>
          obtain rfl : other = point := List.singleton_inj.mp letter
          exact ih
      · split at letter
        · cases letter
        · exact letter

/-- A character that stands in no table and is no syllable is a letter. -/
theorem isLetter_of_testBit {point : Nat} (whole : takenApart.testBit point = false) :
    IsLetter point := by
  have noSingleton : find? singletons point = none := by
    refine Option.eq_none_iff_forall_ne_some.mpr fun other found => ?_
    simp [testBit_takenApart (mem_expansions_of_singletons (mem_of_find? found))] at whole
  have noPair : find? pairs point = none := by
    refine Option.eq_none_iff_forall_ne_some.mpr fun parts found => ?_
    simp [testBit_takenApart (mem_expansions_of_pairs (mem_of_find? found))] at whole
  have noSyllable : syllableLetters? point = none := by
    rw [takenApart, Nat.testBit_or, Bool.or_eq_false_iff] at whole
    rw [syllableLetters?, if_neg]
    intro inside
    simp [syllableSet, (testBit_intervalSet _ _ _).mpr inside] at whole
  rw [IsLetter, lettersWithin, noSingleton]
  simp only [noPair, noSyllable, Option.getD_none]

/-- The letters of Hangul are letters. -/
theorem isLetter_of_hangul {point : Nat} (lower : leadBase ≤ point)
    (upper : point < leadBase + 256) : IsLetter point :=
  isLetter_of_testBit (not_testBit_of_and_eq_zero tablesAgree.hangulLetters
    ((testBit_intervalSet _ _ _).mpr ⟨lower, upper⟩))

/-- A syllable falls into letters. -/
theorem isLetter_of_mem_syllableLetters? {point part : Nat} {parts : List Nat}
    (syllable : syllableLetters? point = some parts) (member : part ∈ parts) : IsLetter part := by
  rw [syllableLetters?] at syllable
  split at syllable
  · next inside =>
      have index : (point - syllableBase) / (21 * 28) < 19 := by
        rw [syllableBase] at inside ⊢
        omega
      have between : leadBase ≤ part ∧ part < leadBase + 256 := by
        simp only [leadBase, vowelBase, trailBase] at syllable index ⊢
        split at syllable
        all_goals
          cases syllable
          simp only [List.mem_append, List.mem_cons, List.not_mem_nil, or_false] at member
          omega
      exact isLetter_of_hangul between.1 between.2
  · cases syllable

/-- The parts of a character after some steps are letters, and further steps change nothing. -/
def SettlesWithin (depth point : Nat) : Prop :=
  (∀ more, lettersWithin (depth + more) point = lettersWithin depth point) ∧
    ∀ part ∈ lettersWithin depth point, IsLetter part

/-- A letter needs no step. -/
theorem settlesWithin_zero {point : Nat} (letter : IsLetter point) : SettlesWithin 0 point :=
  ⟨fun more => letter.lettersWithin_eq (0 + more), by simpa [lettersWithin] using letter⟩

/-- A character settles one step after the characters that it falls into. -/
theorem settlesWithin_succ {depth point : Nat}
    (parts : ∀ entry ∈ expansions, entry.1 = point → ∀ part ∈ entry.2, SettlesWithin depth part) :
    SettlesWithin (depth + 1) point := by
  simp only [SettlesWithin, Nat.add_right_comm depth 1, lettersWithin]
  split
  · next other found =>
      exact parts _ (mem_expansions_of_singletons (mem_of_find? found)) rfl other (by simp)
  · split
    · next first second found =>
        have entry := mem_expansions_of_pairs (mem_of_find? found)
        have left := parts _ entry rfl first (by simp)
        have right := parts _ entry rfl second (by simp)
        refine ⟨fun more => by rw [left.1, right.1], fun part member => ?_⟩
        exact (List.mem_append.mp member).elim (left.2 part) (right.2 part)
    · next _ noSingleton _ noPair =>
        refine ⟨fun _ => rfl, fun part member => ?_⟩
        cases syllable : syllableLetters? point with
        | some letters =>
            rw [syllable, Option.getD_some] at member
            exact isLetter_of_mem_syllableLetters? syllable member
        | none =>
            rw [syllable, Option.getD_none, List.mem_singleton] at member
            subst member
            rw [IsLetter, lettersWithin, noSingleton]
            simp only [noPair, syllable, Option.getD_none]

/-- Whoever falls into no member of a set settles one step after those outside of the set. -/
theorem settlesWithin_of_fallsInto {set depth : Nat}
    (outside : ∀ point, set.testBit point = false → SettlesWithin depth point) (point : Nat)
    (apart : (fallsInto set).testBit point = false) : SettlesWithin (depth + 1) point := by
  refine settlesWithin_succ fun entry member equal part found => outside part ?_
  by_contra inside
  subst equal
  rw [testBit_fallsInto member found (by simpa using inside)] at apart
  cases apart

/-- Three steps are enough for every character. -/
theorem settlesWithin_three (point : Nat) : SettlesWithin 3 point := by
  have once (point : Nat) : takenApartTwice.testBit point = false → SettlesWithin 1 point :=
    settlesWithin_of_fallsInto (fun _ whole => settlesWithin_zero (isLetter_of_testBit whole)) point
  have twice (point : Nat) : takenApartThrice.testBit point = false → SettlesWithin 2 point :=
    settlesWithin_of_fallsInto once point
  have none : (fallsInto takenApartThrice).testBit point = false := by
    rw [tablesAgree.settled, Nat.zero_testBit]
  exact settlesWithin_of_fallsInto twice point none

/-! Letters of characters. -/

/-- The letters of a character are the same for every depth from three on. -/
theorem lettersWithin_three (point more : Nat) :
    lettersWithin (3 + more) point = lettersWithin 3 point :=
  (settlesWithin_three point).1 more

/-- A code point of a character is that of the character at it. -/
theorem toNat_ofNat {point : Nat} (valid : point.isValidChar) :
    (Char.ofNat point).toNat = point := by
  rw [Char.ofNat, dif_pos valid]
  rfl

/-- An elementary character is its own letter. -/
def IsElementary (c : Char) : Prop :=
  letters c = [c]

/-- The character at a letter is elementary; what is no character counts as the first one. -/
theorem isElementary_ofNat {point : Nat} (letter : IsLetter point) :
    IsElementary (Char.ofNat point) := by
  by_cases valid : point.isValidChar
  · rw [IsElementary, letters, toNat_ofNat valid, letter.lettersWithin_eq]
    rfl
  · rw [Char.ofNat, dif_neg valid]
    rfl

/-- The letters of a character are elementary. -/
theorem isElementary_of_mem_letters {c part : Char} (member : part ∈ letters c) :
    IsElementary part := by
  obtain ⟨point, found, rfl⟩ := List.mem_map.mp member
  rw [lettersWithin_three c.toNat 1] at found
  exact isElementary_ofNat ((settlesWithin_three c.toNat).2 point found)

/-! Composites. -/

/-- In a table in the order of its keys, every entry is found. -/
theorem find?_eq_some {α : Type} {table : List (Nat × α)}
    (sorted : (table.map Prod.fst).IsChain (· < ·)) {point : Nat} {value : α}
    (entry : (point, value) ∈ table) : find? table point = some value := by
  induction table with
  | nil => cases entry
  | cons head rest ih =>
      obtain ⟨key, stored⟩ := head
      rw [find?]
      rcases List.mem_cons.mp entry with equal | later
      · cases equal
        simp
      · have above : key < point :=
          (List.pairwise_cons.mp (List.isChain_iff_pairwise.mp sorted)).1 point
            (List.mem_map_of_mem (f := Prod.fst) later)
        rw [if_neg (by omega), if_neg (by omega)]
        exact ih sorted.tail later

/-- A character that the pairs take apart has the letters of its two parts. -/
theorem lettersWithin_of_pairs {point first second : Nat}
    (entry : (point, first, second) ∈ pairs) :
    lettersWithin 4 point = lettersWithin 4 first ++ lettersWithin 4 second := by
  have key : (codeSet (pairs.map Prod.fst)).testBit point = true :=
    (testBit_codeSet _ _).mpr (List.mem_map_of_mem (f := Prod.fst) entry)
  have noSingleton : find? singletons point = none := by
    refine Option.eq_none_iff_forall_ne_some.mpr fun other found => ?_
    have apart := not_testBit_of_and_eq_zero tablesAgree.disjoint key
    rw [(testBit_codeSet _ _).mpr (List.mem_map_of_mem (f := Prod.fst) (mem_of_find? found))]
      at apart
    cases apart
  rw [lettersWithin_three first 1, lettersWithin_three second 1, lettersWithin, noSingleton]
  simp only [find?_eq_some tablesAgree.sorted entry]

/-- A syllable has the letters that it falls into. -/
theorem lettersWithin_of_syllable {point : Nat} {parts : List Nat}
    (syllable : syllableLetters? point = some parts) (depth : Nat) :
    lettersWithin (depth + 1) point = parts := by
  have inside : syllableSet.testBit point = true := by
    refine (testBit_intervalSet _ _ _).mpr ?_
    by_contra outside
    rw [syllableLetters?, if_neg outside] at syllable
    cases syllable
  have apart := not_testBit_of_and_eq_zero tablesAgree.syllables inside
  have unlisted (entry : Nat × List Nat) (member : entry ∈ expansions) : entry.1 ≠ point := by
    rintro rfl
    rw [(testBit_codeSet _ _).mpr (List.mem_map_of_mem (f := Prod.fst) member)] at apart
    cases apart
  have noSingleton : find? singletons point = none :=
    Option.eq_none_iff_forall_ne_some.mpr fun _ found =>
      unlisted _ (mem_expansions_of_singletons (mem_of_find? found)) rfl
  have noPair : find? pairs point = none :=
    Option.eq_none_iff_forall_ne_some.mpr fun _ found =>
      unlisted _ (mem_expansions_of_pairs (mem_of_find? found)) rfl
  rw [lettersWithin, noSingleton]
  simp only [noPair, syllable, Option.getD_some]

/-- The syllable with some numbers falls into the letters with these numbers. -/
theorem syllableLetters?_of_index {lead vowel trail : Nat} (leads : lead < 19) (vowels : vowel < 21)
    (trails : trail < 28) :
    syllableLetters? (syllableBase + (lead * 21 + vowel) * 28 + trail) =
      some ([leadBase + lead, vowelBase + vowel] ++
        if trail = 0 then [] else [trailBase + trail]) := by
  rw [syllableLetters?, if_pos (by omega)]
  have index : syllableBase + (lead * 21 + vowel) * 28 + trail - syllableBase =
      (lead * 21 + vowel) * 28 + trail := by omega
  have leadIndex : ((lead * 21 + vowel) * 28 + trail) / (21 * 28) = lead := by omega
  have vowelIndex : ((lead * 21 + vowel) * 28 + trail) / 28 % 21 = vowel := by omega
  have trailIndex : ((lead * 21 + vowel) * 28 + trail) % 28 = trail := by omega
  simp only [index, leadIndex, vowelIndex, trailIndex]
  split <;> simp

/-- A syllable has the letters of the two characters that form it. -/
theorem lettersWithin_of_syllable? {point first second : Nat}
    (joined : syllable? first second = some point) :
    point.isValidChar ∧
      lettersWithin 4 point = lettersWithin 4 first ++ lettersWithin 4 second := by
  rw [syllable?] at joined
  split at joined
  · next bounds =>
      obtain ⟨lead, rfl⟩ := Nat.exists_eq_add_of_le bounds.1
      obtain ⟨vowel, rfl⟩ := Nat.exists_eq_add_of_le bounds.2.2.1
      have leads : lead < 19 := by omega
      have vowels : vowel < 21 := by omega
      have equal := Option.some.inj joined
      rw [Nat.add_sub_cancel_left, Nat.add_sub_cancel_left] at equal
      have fallen := syllableLetters?_of_index leads vowels (by decide : 0 < 28)
      have left : IsLetter (leadBase + lead) := isLetter_of_hangul (by omega) (by omega)
      have right : IsLetter (vowelBase + vowel) := by
        refine isLetter_of_hangul ?_ ?_ <;> simp only [vowelBase, leadBase] <;> omega
      rw [left.lettersWithin_eq, right.lettersWithin_eq, ← equal]
      refine ⟨Or.inl ?_, lettersWithin_of_syllable fallen 3⟩
      rw [syllableBase]
      omega
  · split at joined
    · next bounds =>
        obtain ⟨lower, upper, whole, trailLower, trailUpper⟩ := bounds
        obtain ⟨trail, rfl⟩ := Nat.exists_eq_add_of_lt trailLower
        have equal := Option.some.inj joined
        have trails : trail + 1 < 28 := by omega
        obtain ⟨index, rfl⟩ := Nat.exists_eq_add_of_le lower
        rw [Nat.add_sub_cancel_left] at whole
        have parts : index = (index / 588 * 21 + index / 28 % 21) * 28 := by omega
        have leads : index / 588 < 19 := by omega
        have vowels : index / 28 % 21 < 21 := Nat.mod_lt _ (by omega)
        rw [parts] at equal ⊢
        have base :
            syllableLetters? (syllableBase + (index / 588 * 21 + index / 28 % 21) * 28) = _ :=
          syllableLetters?_of_index leads vowels (by decide : 0 < 28)
        have fallen := syllableLetters?_of_index leads vowels trails
        have right : IsLetter (trailBase + trail + 1) := by
          refine isLetter_of_hangul ?_ ?_ <;> simp only [trailBase, leadBase] <;> omega
        have offset : trailBase + trail + 1 - trailBase = trail + 1 := by omega
        rw [offset] at equal
        rw [right.lettersWithin_eq, ← equal, lettersWithin_of_syllable fallen 3,
          lettersWithin_of_syllable base 3]
        refine ⟨Or.inl ?_, by simp [Nat.add_assoc]⟩
        rw [syllableBase]
        omega
    · cases joined

/-- A composite has the letters of the two characters that it stands for. -/
theorem letters_of_composite? {base c joined : Char} (found : composite? base c = some joined) :
    letters joined = letters base ++ letters c := by
  have fromPoint {point : Nat} (valid : point.isValidChar)
      (split : lettersWithin 4 point = lettersWithin 4 base.toNat ++ lettersWithin 4 c.toNat) :
      letters (Char.ofNat point) = letters base ++ letters c := by
    rw [letters, toNat_ofNat valid, split, List.map_append]
    rfl
  rw [composite?] at found
  split at found
  · cases found
  · split at found
    · next point syllable =>
        obtain rfl := Option.some.inj found
        obtain ⟨valid, split⟩ := lettersWithin_of_syllable? syllable
        exact fromPoint valid split
    · obtain ⟨⟨point, first, second⟩, listed, rfl⟩ := Option.map_eq_some_iff.mp found
      have entry := List.mem_of_find?_eq_some listed
      have parts := List.find?_some listed
      simp only [decide_eq_true_eq] at parts
      obtain ⟨rfl, rfl, -⟩ := parts
      exact fromPoint (tablesAgree.valid point (List.mem_map_of_mem (f := Prod.fst) entry))
        (lettersWithin_of_pairs entry)

end CrossRef.Text.Composition
