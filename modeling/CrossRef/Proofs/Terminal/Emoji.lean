import CrossRef.Proofs.Terminal.Thinning
import CrossRef.Proofs.Text.Separator

/-!
What the replacement of emoji does to a text: an emoji takes the place of a code with two colons,
and a code does not go across a blank.
-/

namespace CrossRef.Emoji

open Markup (isMark weight IsThinned)

/-! The emoji of names. -/

/-- An emoji holds none of the characters that have a meaning. -/
def IsBare (points : List Nat) : Prop :=
  ∀ point ∈ points, isMark (Char.ofNat point) = false

/-- What is looked up stands in the table. -/
theorem exists_of_lookUp {α : Type} {table : List (α × List String)} {name : String} {value : α}
    (found : lookUp table name = some value) : ∃ names, (value, names) ∈ table := by
  obtain ⟨entry, first, rfl⟩ := Option.map_eq_some_iff.mp found
  exact ⟨entry.2, List.mem_of_find?_eq_some first⟩

/-- All marks are ASCII characters. -/
theorem isMark_ofNat_of_large {point : Nat} (large : 0x80 ≤ point) :
    isMark (Char.ofNat point) = false := by
  have other (mark : Char) (small : mark.toNat < 0x80) (nonzero : mark.toNat ≠ 0) :
      Char.ofNat point ≠ mark := by
    rintro rfl
    by_cases valid : point.isValidChar
    · have number : (Char.ofNat point).toNat = point := by
        rw [Char.ofNat, dif_pos valid]
        rfl
      rw [number] at small
      exact absurd small (Nat.not_lt.mpr large)
    · rw [Char.ofNat, dif_neg valid] at nonzero
      exact nonzero rfl
  simp only [isMark, Markup.isDropped, Bool.or_eq_false_iff, beq_eq_false_iff_ne]
  exact ⟨⟨⟨⟨other _ (by decide) (by decide), other _ (by decide) (by decide)⟩,
    other _ (by decide) (by decide)⟩, other _ (by decide) (by decide)⟩,
    ⟨⟨⟨other _ (by decide) (by decide), other _ (by decide) (by decide)⟩,
      other _ (by decide) (by decide)⟩, other _ (by decide) (by decide)⟩,
    other _ (by decide) (by decide)⟩

/-- The letters of flags are beyond ASCII. -/
theorem isBare_flag (letters : String) : IsBare (flag letters) := by
  intro point member
  obtain ⟨c, -, rfl⟩ := List.mem_map.mp member
  exact isMark_ofNat_of_large (by omega)

/-- Every emoji in the tables is bare. -/
theorem isBare_of_untoned? {name : String} {points : List Nat}
    (found : untoned? name = some points) : IsBare points := by
  have characters : ∀ entry ∈ characterNames, isMark (Char.ofNat entry.1) = false := by
    decide +kernel
  have sequences : ∀ entry ∈ sequenceNames, ∀ point ∈ entry.1,
      isMark (Char.ofNat point) = false := by
    decide +kernel
  rw [untoned?, Option.or_eq_some_iff, Option.or_eq_some_iff, Option.or_eq_some_iff] at found
  rcases found with character | ⟨-, sequence | ⟨-, region | ⟨-, other⟩⟩⟩
  · obtain ⟨value, looked, rfl⟩ := Option.map_eq_some_iff.mp character
    obtain ⟨names, listed⟩ := exists_of_lookUp looked
    intro point member
    rw [List.mem_singleton.mp member]
    exact characters _ listed
  · obtain ⟨names, listed⟩ := exists_of_lookUp sequence
    exact sequences _ listed
  · obtain ⟨entry, -, rfl⟩ := Option.map_eq_some_iff.mp region
    exact isBare_flag entry.1
  · obtain ⟨letters, -, rfl⟩ := Option.map_eq_some_iff.mp other
    exact isBare_flag letters

/-- A tone stands among bare characters. -/
theorem isBare_tint {points : List Nat} (bare : IsBare points) {tone : Nat}
    (large : 0x80 ≤ tone) : IsBare (tint tone points) := by
  have toned := isMark_ofNat_of_large large
  unfold tint
  split
  · intro point member
    simp only [IsBare, List.mem_cons] at bare member
    rcases member with first | second | later
    · exact bare point (Or.inl first)
    · rw [second]
      exact toned
    · exact bare point (Or.inr (Or.inr later))
  · intro point member
    simp only [IsBare, List.mem_cons] at bare member
    rcases member with first | second | later
    · exact bare point (Or.inl first)
    · rw [second]
      exact toned
    · exact bare point (Or.inr later)
  · exact fun point member => absurd member (List.not_mem_nil)

/-- Every emoji is bare, with a tone or without one. -/
theorem isMark_of_ofName? {name : String} {emoji : List Char} (found : ofName? name = some emoji) :
    ∀ c ∈ emoji, isMark c = false := by
  have tones : ∀ tone ∈ tones, 0x80 ≤ tone.2 := by decide
  obtain ⟨points, named, rfl⟩ := Option.map_eq_some_iff.mp found
  have bare : IsBare points := by
    rcases Option.or_eq_some_iff.mp named with plain | ⟨-, toned⟩
    · exact isBare_of_untoned? plain
    · obtain ⟨tone, listed, based⟩ := List.exists_of_findSome?_eq_some toned
      obtain ⟨base, -, tinted⟩ := Option.bind_eq_some_iff.mp based
      obtain ⟨plain, looked, rfl⟩ := Option.map_eq_some_iff.mp tinted
      exact isBare_tint (isBare_of_untoned? looked) (tones tone listed)
  intro c member
  obtain ⟨point, inside, rfl⟩ := List.mem_map.mp member
  exact bare point inside

/-- A code becomes an emoji without marks. -/
theorem isMark_of_ofCode? {inside emoji : List Char} (found : ofCode? inside = some emoji) :
    ∀ c ∈ emoji, isMark c = false := by
  rw [ofCode?] at found
  split at found
  · next ending mark variant =>
      obtain ⟨plain, named, rfl⟩ := Option.map_eq_some_iff.mp found
      have marks : ∀ variant ∈ variants, isMark variant.2 = false := by decide
      intro c member
      rcases List.mem_append.mp member with first | last
      · exact isMark_of_ofName? named c first
      · rw [List.mem_singleton.mp last]
        exact marks _ (List.mem_of_find?_eq_some variant)
  · exact isMark_of_ofName? found

/-! Codes in a text. -/

/-- A code stands between two colons. -/
theorem eq_of_takeCode? {text inside afterCode : List Char}
    (taken : takeCode? text = some (inside, afterCode)) :
    text = ':' :: inside ++ ':' :: afterCode := by
  rw [takeCode?.eq_def] at taken
  split at taken
  · next rest =>
    split at taken
    · next found =>
      cases taken
      rw [List.cons_append, ← found, List.takeWhile_append_dropWhile]
    · cases taken
  · cases taken

/-- Codes start with a colon. -/
theorem takeCode?_of_ne {c : Char} (other : c ≠ ':') (rest : List Char) :
    takeCode? (c :: rest) = none := by
  rw [takeCode?.eq_def]
  split
  · next inside equal =>
      cases equal
      exact absurd rfl other
  · rfl

variable {c : Char}

/-- No code goes across a blank. -/
theorem takeCode?_append (blank : Text.isBlank c = true) (first : Char) (rest behind : List Char) :
    takeCode? (first :: rest ++ c :: behind) =
      (takeCode? (first :: rest)).map fun taken => (taken.1, taken.2 ++ c :: behind) := by
  have outside : isInside c = false := by simp [isInside, blank]
  have noColon : c ≠ ':' := by
    rintro rfl
    revert blank
    decide
  by_cases colon : first = ':'
  · subst colon
    simp only [List.cons_append, takeCode?, Text.dropWhile_append_cons outside,
      Text.takeWhile_append_cons outside]
    cases rest.dropWhile isInside with
    | nil => simp [noColon]
    | cons last after =>
        by_cases closing : last = ':'
        · subst closing
          simp
        · simp [closing]
  · rw [List.cons_append, takeCode?_of_ne colon, takeCode?_of_ne colon, Option.map_none]

/-- A code at the front is replaced, and the search goes on behind it. -/
theorem replaceCodes_of_some {first : Char} {rest inside afterCode : List Char}
    (taken : takeCode? (first :: rest) = some (inside, afterCode)) :
    replaceCodes (first :: rest) =
      (ofCode? inside).getD (':' :: inside ++ [':']) ++ replaceCodes afterCode := by
  rw [replaceCodes]
  split
  · next other found =>
      cases found.symm.trans taken
      rfl
  · next none => cases none.symm.trans taken

/-- Without a code at the front the search goes on behind the first character. -/
theorem replaceCodes_of_none {first : Char} {rest : List Char}
    (plain : takeCode? (first :: rest) = none) :
    replaceCodes (first :: rest) = first :: replaceCodes rest := by
  rw [replaceCodes]
  split
  · next found => cases found.symm.trans plain
  · rfl

/-- Text without colons holds no code. -/
theorem replaceCodes_of_notMem {text : List Char} (noColon : ':' ∉ text) :
    replaceCodes text = text := by
  induction text with
  | nil => simp [replaceCodes]
  | cons c rest ih =>
      rw [List.mem_cons, not_or] at noColon
      rw [replaceCodes_of_none (takeCode?_of_ne (Ne.symm noColon.1) rest), ih noColon.2]

/-- Blanks cut a text into parts whose codes are replaced one by one. -/
theorem replaceCodes_append (blank : Text.isBlank c = true) (start behind : List Char) :
    replaceCodes (start ++ c :: behind) = replaceCodes start ++ c :: replaceCodes behind := by
  have noColon : c ≠ ':' := by
    rintro rfl
    revert blank
    decide
  fun_induction replaceCodes start with
  | case1 => exact replaceCodes_of_none (takeCode?_of_ne noColon behind)
  | case2 first rest inside afterCode taken ih =>
      have further := takeCode?_append blank first rest behind
      rw [taken, Option.map_some] at further
      rw [List.cons_append] at further ⊢
      rw [replaceCodes_of_some further, ih, List.append_assoc]
  | case3 first rest plain ih =>
      have further := takeCode?_append blank first rest behind
      rw [plain, Option.map_none] at further
      rw [List.cons_append] at further ⊢
      rw [replaceCodes_of_none further, ih, List.cons_append]

/-- Replacing a code takes away its colons. -/
theorem isThinned_replaceCodes (text : List Char) : IsThinned text (replaceCodes text) := by
  fun_induction replaceCodes text with
  | case1 => exact .refl []
  | case2 c rest inside afterCode taken ih =>
      have whole : c :: rest = (':' :: inside ++ [':']) ++ afterCode := by
        rw [eq_of_takeCode? taken]
        simp
      rw [whole]
      refine IsThinned.append ?_ ih
      cases found : ofCode? inside with
      | none => exact .refl _
      | some emoji =>
          refine Or.inr ?_
          rw [Option.getD_some, Markup.weight_eq_zero (isMark_of_ofCode? found)]
          simp [Markup.weight_cons, isMark]
  | case3 c rest plain ih => exact ih.cons c

end CrossRef.Emoji
