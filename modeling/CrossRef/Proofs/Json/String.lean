import CrossRef.Json.Reader
import CrossRef.Json.Writer

/-!
Strings in JSON text: every string is read back, character by character, from its escaped form.
-/

namespace CrossRef.Json

/-! Escapes by number. -/

theorem hexValue?_digitChar : ∀ digit < 16, hexValue? (Nat.digitChar digit) = some digit := by
  decide

/-- Four digits are read as the unit that they were written for. -/
theorem fourHex?_lowerHex {unit : Nat} (small : unit < 0x10000) (next : Char) (rest : List Char) :
    fourHex? (Text.lowerHex 4 unit ++ next :: rest) = some (unit, next :: rest) := by
  have digits : Text.lowerHex 4 unit ++ next :: rest =
      Nat.digitChar (unit / 16 / 16 / 16 % 16) :: Nat.digitChar (unit / 16 / 16 % 16) ::
        Nat.digitChar (unit / 16 % 16) :: Nat.digitChar (unit % 16) :: next :: rest := rfl
  have value (number : Nat) : hexValue? (Nat.digitChar (number % 16)) = some (number % 16) :=
    hexValue?_digitChar _ (Nat.mod_lt _ (by decide))
  have whole : ((unit / 16 / 16 / 16 % 16 * 16 + unit / 16 / 16 % 16) * 16 + unit / 16 % 16) * 16 +
      unit % 16 = unit := by omega
  simp only [digits, fourHex?, value]
  simp [whole]

/-- An escape by number below the units of pairs stands for its character. -/
theorem readUnicodeEscape_lowerHex {c : Char} (control : c.toNat < 0x20) {rest : List Char}
    (filled : rest ≠ []) :
    readUnicodeEscape (Text.lowerHex 4 c.toNat ++ rest) = .ok (c, rest) := by
  obtain ⟨next, later, rfl⟩ := List.exists_cons_of_ne_nil filled
  have notHigh : isHighHalf c.toNat = false := by
    simp only [isHighHalf, Bool.and_eq_false_iff, decide_eq_false_iff_not]
    omega
  have notLow : isLowHalf c.toNat = false := by
    simp only [isLowHalf, Bool.and_eq_false_iff, decide_eq_false_iff_not]
    omega
  have char : unitChar c.toNat = c := by
    rw [unitChar, notHigh, notLow]
    exact Char.ofNat_toNat c
  rw [readUnicodeEscape, fourHex?_lowerHex (by omega)]
  simp only [notHigh, char]
  split <;> simp

/-! Characters. -/

/-- A character is escaped by a letter, by its number, or not at all. -/
theorem escapeChar_cases (c : Char) :
    (∃ letter, escapeChar c = ['\\', letter] ∧ letter ≠ 'u' ∧ shortEscape? letter = some c) ∨
      (c.toNat < 0x20 ∧ escapeChar c = '\\' :: 'u' :: Text.lowerHex 4 c.toNat) ∨
      (escapeChar c = [c] ∧ c ≠ '"' ∧ c ≠ '\\' ∧ 0x20 ≤ c.toNat) := by
  simp only [escapeChar, beq_iff_eq]
  split
  · next same => exact Or.inl ⟨'"', rfl, by decide, by rw [same]; rfl⟩
  next notQuote =>
  split
  · next same => exact Or.inl ⟨'\\', rfl, by decide, by rw [same]; rfl⟩
  next notBackslash =>
  split
  · next same => exact Or.inl ⟨'n', rfl, by decide, by rw [same]; rfl⟩
  split
  · next same => exact Or.inl ⟨'r', rfl, by decide, by rw [same]; rfl⟩
  split
  · next same => exact Or.inl ⟨'t', rfl, by decide, by rw [same]; rfl⟩
  split
  · next same => exact Or.inl ⟨'f', rfl, by decide, by rw [same]; rfl⟩
  split
  · next same => exact Or.inl ⟨'b', rfl, by decide, by rw [same]; rfl⟩
  split
  · next control => exact Or.inr (Or.inl ⟨control, rfl⟩)
  · next visible => exact Or.inr (Or.inr ⟨rfl, notQuote, notBackslash, by omega⟩)

/-- An escaped character is read as the character, in front of whatever is read next. -/
theorem readChars_escapeChar (c : Char) {start text tail rest : List Char} {bound : Nat}
    (next : readChars start bound text = .ok (tail, rest)) :
    readChars start (bound + 1) (escapeChar c ++ text) = .ok (c :: tail, rest) := by
  have filled : text ≠ [] := by
    rintro rfl
    cases bound <;> cases next
  rcases escapeChar_cases c with ⟨letter, escaped, notNumber, short⟩ | ⟨control, escaped⟩ |
    ⟨plain, notQuote, notBackslash, visible⟩
  · have read : readEscape start (letter :: text) = .ok (c, text) := by
      rw [readEscape, short]
      exact notNumber
    rw [escaped, List.cons_append, List.cons_append, List.nil_append, readChars, read]
    simp only [bind, Except.bind, next]
    rfl
  · rw [escaped, List.cons_append, List.cons_append, readChars, readEscape,
      readUnicodeEscape_lowerHex control filled]
    simp only [bind, Except.bind, next]
    rfl
  · rw [plain, List.singleton_append, readChars, if_neg (by omega), next]
    · rfl
    · exact notQuote
    · exact notBackslash

/-- The escaped characters up to the closing mark are read as the characters. -/
theorem readChars_escaped (start chars rest : List Char) {bound : Nat}
    (enough : chars.length < bound) :
    readChars start bound (chars.flatMap escapeChar ++ '"' :: rest) = .ok (chars, rest) := by
  induction chars generalizing bound with
  | nil =>
      obtain ⟨more, rfl⟩ := Nat.exists_eq_add_one.mpr enough
      rfl
  | cons c chars ih =>
      obtain ⟨more, rfl⟩ := Nat.exists_eq_add_one.mpr (Nat.zero_lt_of_lt enough)
      rw [List.flatMap_cons, List.append_assoc]
      exact readChars_escapeChar c (ih (Nat.lt_of_succ_lt_succ enough))

theorem escapeChar_ne_nil (c : Char) : escapeChar c ≠ [] := by
  rcases escapeChar_cases c with ⟨letter, escaped, -, -⟩ | ⟨-, escaped⟩ | ⟨plain, -, -, -⟩
  · simp [escaped]
  · simp [escaped]
  · simp [plain]

/-- Escaping makes a text no shorter. -/
theorem length_le_escaped (chars : List Char) :
    chars.length ≤ (chars.flatMap escapeChar).length := by
  induction chars with
  | nil => exact Nat.le_refl 0
  | cons c chars ih =>
      have one := List.length_pos_iff.mpr (escapeChar_ne_nil c)
      rw [List.flatMap_cons, List.length_append, List.length_cons]
      omega

/-- A written string, after its opening mark, is read back. -/
theorem readString_writeString (value : String) (rest : List Char) :
    readString (value.toList.flatMap escapeChar ++ '"' :: rest) = .ok (value, rest) := by
  have enough : value.toList.length <
      (value.toList.flatMap escapeChar ++ '"' :: rest).length + 1 := by
    have shorter := length_le_escaped value.toList
    rw [List.length_append]
    omega
  rw [readString, readChars_escaped _ _ _ enough]
  simp only [bind, Except.bind, String.ofList_toList]
  rfl

end CrossRef.Json
