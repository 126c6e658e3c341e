import CrossRef.Number.Format
import CrossRef.Number.Numeral
import CrossRef.Proofs.Number.ReadBack

/-!
The digits of a decimal: every text of a decimal consists of a whole part, places behind a point
and an exponent, and these stand for the decimal itself, with zeros at the end perhaps.
-/

namespace CrossRef

namespace Numeral

/-! Values of digits. -/

theorem digitsValue_eq (digits : List Char) :
    digitsValue digits = Nat.ofDigitChars 10 digits 0 := by
  rw [digitsValue, Nat.ofDigitChars_eq_foldl]
  simp only [Nat.mul_comm]

/-- The digits of a number have its value. -/
theorem digitsValue_toDigits (number : Nat) : digitsValue (Nat.toDigits 10 number) = number := by
  rw [digitsValue_eq, Nat.ofDigitChars_ten_toDigits]

/-- Zeros in front of digits change nothing. -/
theorem digitsValue_zeros_append (count : Nat) (digits : List Char) :
    digitsValue (Binary64.zeros count ++ digits) = digitsValue digits := by
  rw [digitsValue_eq, digitsValue_eq, Nat.ofDigitChars_append, Binary64.zeros,
    Nat.ofDigitChars_replicate_zero, Nat.mul_zero]

/-- Zeros behind digits multiply by ten. -/
theorem digitsValue_append_zeros (digits : List Char) (count : Nat) :
    digitsValue (digits ++ Binary64.zeros count) = digitsValue digits * 10 ^ count := by
  rw [digitsValue_eq, digitsValue_eq, Nat.ofDigitChars_append, Binary64.zeros,
    Nat.ofDigitChars_replicate_zero, Nat.mul_comm]

theorem isDigit_of_mem_toDigits {number : Nat} {c : Char} (member : c ∈ Nat.toDigits 10 number) :
    c.isDigit = true :=
  Nat.isDigit_of_mem_toDigits (by decide) (by decide) member

theorem isDigit_of_mem_zeros {count : Nat} {c : Char} (member : c ∈ Binary64.zeros count) :
    c.isDigit = true := by
  rw [List.eq_of_mem_replicate member]
  rfl

/-- The first digit of a positive number is not zero. -/
theorem exists_toDigits_eq_cons {number : Nat} (positive : 0 < number) :
    ∃ first rest, Nat.toDigits 10 number = first :: rest ∧ first ≠ '0' := by
  induction number using Nat.strong_induction_on with
  | _ number ih =>
      rw [Nat.toDigits_eq_if (by decide)]
      split
      · next small =>
          have nonzero : ∀ digit < 10, 0 < digit → Nat.digitChar digit ≠ '0' := by decide
          exact ⟨_, [], rfl, nonzero number small positive⟩
      · next large =>
          obtain ⟨first, rest, digits, nonzero⟩ := ih (number / 10) (by omega) (by omega)
          exact ⟨first, rest ++ [Nat.digitChar (number % 10)], by rw [digits]; rfl, nonzero⟩

/-! Parts of a numeral. -/

/-- The parts of a numeral: whole digits, places behind a point, and an exponent. -/
structure Parts where
  whole : List Char
  places : List Char := []
  exponent : Option Int := none

namespace Parts

/-- The text of a numeral. Without places there is no point. -/
def text (parts : Parts) : List Char :=
  parts.whole ++ (if parts.places = [] then [] else '.' :: parts.places) ++
    (parts.exponent.map Binary64.exponentText).getD []

/-- The decimal that a numeral stands for. -/
def value (parts : Parts) : Decimal :=
  ⟨digitsValue (parts.whole ++ parts.places), parts.exponent.getD 0 - parts.places.length⟩

/-- A numeral is proper when its parts are digits, its whole part is a zero or does not start with
zero, and it has places or an exponent. -/
structure IsProper (parts : Parts) : Prop where
  whole_digits : ∀ c ∈ parts.whole, c.isDigit = true
  places_digits : ∀ c ∈ parts.places, c.isDigit = true
  leading : parts.whole = ['0'] ∨ ∃ first rest, parts.whole = first :: rest ∧ first ≠ '0'
  isBinary : parts.places ≠ [] ∨ parts.exponent ≠ none

end Parts

/-! The characters of numerals. -/

/-- The characters that the numerals of finite numbers are written with. -/
def IsNumeric (c : Char) : Prop :=
  c.isDigit = true ∨ c ∈ ['.', 'e', '+', '-']

/-- An exponent is written with a letter, a sign and digits. -/
theorem isNumeric_of_mem_exponentText {exponent : Int} {c : Char}
    (member : c ∈ Binary64.exponentText exponent) : IsNumeric c := by
  simp only [Binary64.exponentText, List.mem_cons, List.mem_append] at member
  rcases member with rfl | rfl | zero | digit
  · exact Or.inr (by decide)
  · exact Or.inr (by split <;> decide)
  · exact Or.inl (isDigit_of_mem_zeros zero)
  · exact Or.inl (isDigit_of_mem_toDigits digit)

/-- A proper numeral is written with digits, a point and an exponent. -/
theorem Parts.IsProper.isNumeric {parts : Parts} (proper : parts.IsProper) {c : Char}
    (member : c ∈ parts.text) : IsNumeric c := by
  rw [Parts.text, List.mem_append, List.mem_append] at member
  rcases member with (whole | fraction) | exponent
  · exact Or.inl (proper.whole_digits c whole)
  · split at fraction
    · cases fraction
    · rcases List.mem_cons.mp fraction with rfl | place
      · exact Or.inr (by decide)
      · exact Or.inl (proper.places_digits c place)
  · cases found : parts.exponent with
    | none =>
        rw [found] at exponent
        cases exponent
    | some value =>
        rw [found] at exponent
        exact isNumeric_of_mem_exponentText exponent

/-- A sign changes nothing about the characters of a numeral. -/
theorem isNumeric_signed {text : List Char} (numeric : ∀ c ∈ text, IsNumeric c) (negative : Bool) :
    ∀ c ∈ Binary64.signed negative text, IsNumeric c := by
  cases negative with
  | true => exact List.forall_mem_cons.mpr ⟨Or.inr (by decide), numeric⟩
  | false => exact numeric

/-- A whole number is written by its digits, behind a sign when it is negative. -/
theorem toString_integer (value : Int) :
    (toString value).toList =
      Binary64.signed (decide (value < 0)) (Nat.toDigits 10 value.natAbs) := by
  cases value with
  | ofNat number => simp [toString, Int.repr, Nat.repr, Binary64.signed]
  | negSucc number => simp [toString, Int.repr, Nat.repr, Binary64.signed]

/-- A whole number is a numeral. -/
theorem isNumeric_toString (value : Int) : ∀ c ∈ (toString value).toList, IsNumeric c := by
  rw [toString_integer]
  exact isNumeric_signed (fun c digit => Or.inl (isDigit_of_mem_toDigits digit)) _

end Numeral

namespace Binary64

open Numeral (Parts digitsValue IsNumeric)

variable {decimal : Decimal} {first : Char} {rest : List Char}

theorem shift_zero (decimal : Decimal) : decimal.shift 0 = decimal := by
  simp [Decimal.shift]

/-- One digit before the point, the others behind it, and an exponent. -/
theorem exists_parts_scientific (areDigits : ∀ c ∈ first :: rest, c.isDigit = true)
    (nonzero : first ≠ '0') (value : digitsValue (first :: rest) = decimal.digits) :
    let exponent := ((first :: rest).length : Int) + decimal.exponent - 1
    let parts : Parts := ⟨[first], rest, some exponent⟩
    parts.IsProper ∧ parts.value = decimal.shift 0 := by
  obtain ⟨firstDigit, restDigits⟩ := List.forall_mem_cons.mp areDigits
  refine ⟨⟨by simpa using firstDigit, restDigits, Or.inr ⟨first, [], rfl, nonzero⟩,
    Or.inr (by simp)⟩, ?_⟩
  rw [shift_zero, Parts.value, Decimal.mk.injEq]
  refine ⟨value, ?_⟩
  simp only [Option.getD_some, List.length_cons]
  omega

/-- A zero before the point, and zeros and all digits behind it. -/
theorem exists_parts_small (areDigits : ∀ c ∈ first :: rest, c.isDigit = true)
    (value : digitsValue (first :: rest) = decimal.digits) {count : Nat}
    (point : (count : Int) + (first :: rest).length = -decimal.exponent) :
    let parts : Parts := ⟨['0'], zeros count ++ first :: rest, none⟩
    parts.IsProper ∧ parts.value = decimal.shift 0 := by
  refine ⟨⟨by simp, fun c member => ?_, Or.inl rfl, Or.inl (by simp)⟩, ?_⟩
  · exact (List.mem_append.mp member).elim Numeral.isDigit_of_mem_zeros (areDigits c)
  · rw [shift_zero, Parts.value, Decimal.mk.injEq]
    refine ⟨?_, ?_⟩
    · rw [← value]
      exact (Numeral.digitsValue_zeros_append 1 _).trans (Numeral.digitsValue_zeros_append count _)
    · simp only [Option.getD_none, List.length_append, zeros, List.length_replicate]
      omega

/-- All digits and zeros before the point, and a zero behind it. -/
theorem exists_parts_whole (areDigits : ∀ c ∈ first :: rest, c.isDigit = true)
    (nonzero : first ≠ '0') (value : digitsValue (first :: rest) = decimal.digits) {count : Nat}
    (point : decimal.exponent = count) :
    let parts : Parts := ⟨first :: rest ++ zeros count, ['0'], none⟩
    parts.IsProper ∧ parts.value = decimal.shift (count + 1) := by
  refine ⟨⟨fun c member => ?_, by simp, Or.inr ⟨first, rest ++ zeros count, rfl, nonzero⟩,
    Or.inl (by simp)⟩, ?_⟩
  · exact (List.mem_append.mp member).elim (areDigits c) Numeral.isDigit_of_mem_zeros
  · rw [Parts.value, Decimal.shift, Decimal.mk.injEq]
    refine ⟨?_, ?_⟩
    · have padded : first :: rest ++ zeros count ++ ['0'] = first :: rest ++ zeros (count + 1) := by
        rw [List.append_assoc, zeros, zeros, List.replicate_succ']
      rw [padded, Numeral.digitsValue_append_zeros, value]
    · simp only [Option.getD_none, List.length_singleton]
      omega

/-- The point among the digits. -/
theorem exists_parts_split (areDigits : ∀ c ∈ first :: rest, c.isDigit = true)
    (nonzero : first ≠ '0') (value : digitsValue (first :: rest) = decimal.digits) {count : Nat}
    (filled : 0 < count) (fewer : count < (first :: rest).length)
    (point : (count : Int) = (first :: rest).length + decimal.exponent) :
    let parts : Parts := ⟨(first :: rest).take count, (first :: rest).drop count, none⟩
    parts.IsProper ∧ parts.value = decimal.shift 0 := by
  obtain ⟨before, rfl⟩ := Nat.exists_eq_add_one.mpr filled
  refine ⟨⟨fun c member => areDigits c (List.mem_of_mem_take member),
    fun c member => areDigits c (List.mem_of_mem_drop member),
    Or.inr ⟨first, rest.take before, rfl, nonzero⟩, Or.inl ?_⟩, ?_⟩
  · rw [ne_eq, List.drop_eq_nil_iff]
    omega
  · rw [shift_zero, Parts.value, Decimal.mk.injEq, List.take_append_drop]
    refine ⟨value, ?_⟩
    simp only [Option.getD_none, List.length_drop]
    omega

/-- The text of a positive decimal is a proper numeral for the same decimal. -/
theorem exists_parts_decimalText {style : Notation64} (noPoint : style.pointBeforeExponent = false)
    (positive : 0 < decimal.digits) :
    ∃ (parts : Parts) (places : Nat), decimalText style decimal = parts.text ∧ parts.IsProper ∧
      parts.value = decimal.shift places := by
  obtain ⟨first, rest, digits, nonzero⟩ := Numeral.exists_toDigits_eq_cons positive
  have areDigits : ∀ c ∈ first :: rest, c.isDigit = true := fun c member =>
    Numeral.isDigit_of_mem_toDigits (digits ▸ member)
  have value : digitsValue (first :: rest) = decimal.digits := by
    rw [← digits, Numeral.digitsValue_toDigits]
  simp only [decimalText, digits]
  split
  · obtain ⟨proper, same⟩ := exists_parts_scientific areDigits nonzero value
    refine ⟨_, 0, ?_, proper, same⟩
    cases rest <;> simp [Parts.text, noPoint]
  · split
    · next small =>
        obtain ⟨proper, same⟩ := exists_parts_small areDigits value
          (by omega : ((-(((first :: rest).length : Int) + decimal.exponent)).toNat : Int) +
            (first :: rest).length = -decimal.exponent)
        exact ⟨_, 0, by simp [Parts.text], proper, same⟩
    · split
      · next long =>
          obtain ⟨proper, same⟩ := exists_parts_whole areDigits nonzero value
            (by omega : decimal.exponent =
              ((((first :: rest).length : Int) + decimal.exponent).toNat -
                (first :: rest).length : Nat))
          exact ⟨_, _, by simp [Parts.text], proper, same⟩
      · next large short =>
          obtain ⟨proper, same⟩ := exists_parts_split areDigits nonzero value
            (by omega : 0 < (((first :: rest).length : Int) + decimal.exponent).toNat) (by omega)
            (by omega)
          refine ⟨_, 0, ?_, proper, same⟩
          have places := proper.isBinary.resolve_right (by simp)
          simp only [Parts.text, if_neg places, Option.map_none, Option.getD_none, List.append_nil]

/-- The text of a finite number is a numeral. -/
theorem isNumeric_textIn {style : Notation64} (noPoint : style.pointBeforeExponent = false)
    (negative : Bool) {magnitude : Nat} (representable : Representable magnitude) :
    ∀ c ∈ ((finite negative magnitude representable).textIn style).toList, IsNumeric c := by
  rw [textIn, String.toList_ofList]
  refine Numeral.isNumeric_signed ?_ negative
  split
  · simp [IsNumeric]
  · next nonzero =>
      have positive := Nat.pos_of_ne_zero nonzero
      obtain ⟨parts, places, text, proper, -⟩ := exists_parts_decimalText noPoint
        (digits_pos_of_readsAs positive (readsAs_shortest positive))
      rw [text]
      exact fun c => proper.isNumeric

end Binary64

end CrossRef
