import CrossRef.Proofs.Number.Digits
import CrossRef.Proofs.Number.Order

/-!
Plain notation: the text of a positive number is digits, perhaps with a point and more digits,
exactly when the number is finite and at least one ten-thousandth. Large numbers are whole, and
whole numbers are written with all their digits.
-/

namespace CrossRef

namespace Numeral

/-- A numeral in plain notation for a value: digits, perhaps with a point and more digits, that are
read as the value. -/
def IsPlain (text : List Char) (value : Binary64) : Prop :=
  ∃ whole places : List Char, whole ≠ [] ∧ (∀ c ∈ whole ++ places, c.isDigit = true) ∧
    text = whole ++ (if places = [] then [] else '.' :: places) ∧
    Binary64.ofDecimal false (digitsValue (whole ++ places)) (-(places.length : Int)) = value

/-- There are only digits and points in plain notation. -/
theorem IsPlain.isDigit_or_point {text : List Char} {value : Binary64} (plain : IsPlain text value)
    {c : Char} (member : c ∈ text) : c.isDigit = true ∨ c = '.' := by
  obtain ⟨whole, places, -, areDigits, rfl, -⟩ := plain
  rw [List.forall_mem_append] at areDigits
  rcases List.mem_append.mp member with first | later
  · exact Or.inl (areDigits.1 c first)
  · split at later
    · simp at later
    · rcases List.mem_cons.mp later with rfl | place
      · exact Or.inr rfl
      · exact Or.inl (areDigits.2 c place)

end Numeral

namespace Binary64

open Numeral (IsPlain Parts digitsValue)

/-! The characters of numbers. -/

/-- An exponent is written below one ten-thousandth and from ten to the sixteenth on. -/
theorem exponent_mem_decimalText_iff {style : Notation64} {decimal : Decimal} :
    'e' ∈ decimalText style decimal ↔
      ((Nat.toDigits 10 decimal.digits).length : Int) + decimal.exponent ≤ -4 ∨
        16 < ((Nat.toDigits 10 decimal.digits).length : Int) + decimal.exponent := by
  have digits : 'e' ∉ Nat.toDigits 10 decimal.digits := fun member => by
    simpa using Numeral.isDigit_of_mem_toDigits member
  have noZero (count : Nat) : 'e' ∉ zeros count := fun member => by
    simpa using Numeral.isDigit_of_mem_zeros member
  simp only [decimalText]
  split
  · next outside => simp [outside, exponentText]
  · next inside =>
      refine iff_of_false ?_ inside
      split
      · simp [digits, noZero]
      · split
        · simp [digits, noZero]
        · intro member
          rcases List.mem_append.mp member with first | later
          · exact digits (List.mem_of_mem_take first)
          · rcases List.mem_cons.mp later with point | place
            · exact absurd point (by decide)
            · exact digits (List.mem_of_mem_drop place)

/-- The characters of a text that stand apart from others in a list of declarations. -/
theorem semicolon_notMem_compactText (value : Binary64) : ';' ∉ value.compactText.toList := by
  have numeric : ¬Numeral.IsNumeric ';' := by simp [Numeral.IsNumeric]
  intro member
  rw [compactText] at member
  split at member
  · exact numeric (Numeral.isNumeric_toString _ _ member)
  · cases value with
    | nan => simp [text, textIn, Notation64.plain] at member
    | infinite negative =>
        cases negative <;> simp [text, textIn, signed, Notation64.plain] at member
    | finite negative magnitude representable =>
        exact numeric (isNumeric_textIn rfl negative representable _ member)

/-! The size of numbers. -/

variable {magnitude : Nat}

/-- The number of places before the point of the shortest decimal; places that are missing count
negative. -/
def point (magnitude : Nat) : Int :=
  ((Nat.toDigits 10 (shortest magnitude).digits).length : Int) + (shortest magnitude).exponent

/-- The shortest decimal of one ten-thousandth is written with a single digit. -/
theorem exists_tenThousandth :
    ∃ (edge : Nat) (limit : Representable edge), 0 < edge ∧ edge < 2 ^ 1074 ∧
      shortest edge = ⟨1, -4⟩ ∧ (0.0001 : Binary64) = finite false edge limit := by
  have small : roundedMagnitude (2 ^ 1074) (10 ^ 4) < magnitudeLimit := by decide +kernel
  have positive : 0 < roundedMagnitude (2 ^ 1074) (10 ^ 4) := by decide +kernel
  have shortened : shortest (roundedMagnitude (2 ^ 1074) (10 ^ 4)) = ⟨1, -4⟩ := by decide +kernel
  have reads := readsAs_shortest positive
  rw [shortened] at reads
  exact ⟨_, representable_roundedMagnitude small, positive, by decide +kernel, shortened,
    ofDecimal_of_readsAs _ positive reads false⟩

/-- The shortest decimals are in the order of the numbers. -/
theorem shortest_less {smaller larger : Nat} (first : Representable smaller)
    (second : Representable larger) (positive : 0 < smaller) (less : smaller < larger) :
    (shortest smaller).Less (shortest larger) :=
  less_of_readsAs first second positive less (readsAs_shortest positive)
    (readsAs_shortest (positive.trans less))

/-- Below one ten-thousandth, and only there, four zeros stand behind the point. -/
theorem point_le_iff (representable : Representable magnitude) (positive : 0 < magnitude) :
    point magnitude ≤ -4 ↔ lt (finite false magnitude representable) 0.0001 = true := by
  obtain ⟨edge, limit, nonzero, -, shortened, literal⟩ := exists_tenThousandth
  have size : lt (finite false magnitude representable) 0.0001 = true ↔ magnitude < edge := by
    simp [literal, lt]
  rw [size, point, ← less_powerOfTen_iff
    (digits_pos_of_readsAs positive (readsAs_shortest positive)), ← shortened]
  constructor
  · intro less
    by_contra atLeast
    rcases Nat.eq_or_lt_of_le (Nat.le_of_not_lt atLeast) with rfl | above
    · exact Nat.lt_irrefl _ less
    · exact Nat.lt_asymm less (shortest_less limit representable nonzero above)
  · exact shortest_less representable limit positive

/-- Below one ten-thousandth no number is whole. -/
theorem not_dvd_of_lt (representable : Representable magnitude) (positive : 0 < magnitude)
    (small : lt (finite false magnitude representable) 0.0001 = true) : ¬2 ^ 1074 ∣ magnitude := by
  obtain ⟨edge, limit, -, bound, -, literal⟩ := exists_tenThousandth
  have less : magnitude < edge := by simpa [literal, lt] using small
  exact fun whole => Nat.not_le.mpr (less.trans bound) (Nat.le_of_dvd positive whole)

/-- A number counts whole powers of two when 53 bits do not reach below them. -/
theorem dvd_of_large (representable : Representable magnitude) {bits : Nat}
    (large : 2 ^ 53 * 2 ^ bits ≤ magnitude) : 2 ^ bits ∣ magnitude := by
  have between : 2 ^ (53 + bits) < 2 ^ (53 + spareBits magnitude) := by
    rw [Nat.pow_add, Nat.pow_add 2 53 (spareBits magnitude)]
    exact large.trans_lt (lt_units magnitude)
  have more := (Nat.pow_lt_pow_iff_right (by decide : 1 < 2)).mp between
  exact (Nat.pow_dvd_pow 2 (by omega)).trans (dvd_of_representable representable)

/-- A number that is not whole has at most sixteen places before the point. -/
theorem point_le_of_not_whole (representable : Representable magnitude)
    (fraction : ¬2 ^ 1074 ∣ magnitude) : point magnitude ≤ 16 := by
  have positive : 0 < magnitude := Nat.pos_of_ne_zero fun zero => fraction (zero ▸ Nat.dvd_zero _)
  have limit : Representable (10 ^ 16 * 2 ^ 1074) :=
    ⟨⟨5 ^ 16, 1090, by decide, by decide +kernel⟩, by decide +kernel⟩
  have reads : Decimal.ReadsAs ⟨1, 16⟩ (10 ^ 16 * 2 ^ 1074) := by
    have itself := holds_self (by decide +kernel : 0 < 10 ^ 16 * 2 ^ 1074) Nat.one_pos
    rw [Nat.mul_one] at itself
    have units : Decimal.numerator ⟨1, 16⟩ = 10 ^ 16 * 2 ^ 1074 := by
      rw [Decimal.numerator]
      generalize 2 ^ 1074 = one
      rfl
    rw [Decimal.ReadsAs, units]
    exact itself
  have less : magnitude < 10 ^ 16 * 2 ^ 1074 := by
    by_contra above
    have bound : 2 ^ 53 * 2 ^ 1074 ≤ 10 ^ 16 * 2 ^ 1074 := Nat.mul_le_mul_right _ (by decide)
    exact fraction (dvd_of_large representable (bound.trans (Nat.le_of_not_lt above)))
  exact (less_powerOfTen_iff (digits_pos_of_readsAs positive (readsAs_shortest positive)) 16).mp
    (less_of_readsAs representable limit positive less (readsAs_shortest positive) reads)

/-! Plain notation. -/

/-- A whole number is written with all its digits. -/
theorem isPlain_of_whole (representable : Representable magnitude) (positive : 0 < magnitude)
    (whole : 2 ^ 1074 ∣ magnitude) :
    IsPlain (finite false magnitude representable).compactText.toList
      (finite false magnitude representable) := by
  obtain ⟨count, counted⟩ := whole
  have units : magnitude / Nat.pow 2 1074 = count ∧ magnitude % Nat.pow 2 1074 = 0 := by
    simp only [counted, Nat.pow_eq]
    generalize 1074 = bits
    exact ⟨Nat.mul_div_cancel_left count (Nat.two_pow_pos bits), Nat.mul_mod_right _ count⟩
  have text : (finite false magnitude representable).compactText = toString (count : Int) := by
    simp only [compactText, toInt?, units.2, if_true, Bool.false_eq_true, if_false, ← units.1,
      Int.natCast_ediv]
  have reads : Decimal.ReadsAs ⟨count, 0⟩ magnitude := by
    have itself := holds_self positive Nat.one_pos
    have numerator : Decimal.numerator ⟨count, 0⟩ = magnitude * 1 := by
      rw [Decimal.numerator, counted, Nat.mul_one, Nat.mul_comm (2 ^ 1074)]
      exact congrArg (· * 2 ^ 1074) (Nat.mul_one count)
    rw [Decimal.ReadsAs, numerator]
    exact itself
  refine ⟨Nat.toDigits 10 count, [], Nat.toDigits_ne_nil, fun c member => ?_, ?_, ?_⟩
  · rw [List.append_nil] at member
    exact Numeral.isDigit_of_mem_toDigits member
  · rw [text, Numeral.toString_integer, if_pos rfl, List.append_nil]
    rfl
  · rw [List.append_nil, Numeral.digitsValue_toDigits]
    exact ofDecimal_of_readsAs representable positive reads false

/-- A fraction is written as its shortest decimal. -/
theorem compactText_of_fraction (representable : Representable magnitude)
    (fraction : ¬2 ^ 1074 ∣ magnitude) :
    (finite false magnitude representable).compactText.toList =
      decimalText .plain (shortest magnitude) := by
  have rest : ¬magnitude % Nat.pow 2 1074 = 0 := by
    simp only [Nat.pow_eq]
    generalize 1074 = bits at fraction ⊢
    exact fun whole => fraction (Nat.dvd_of_mod_eq_zero whole)
  have nonzero : magnitude ≠ 0 := fun zero => fraction (zero ▸ Nat.dvd_zero _)
  rw [compactText, toInt?, if_neg rest, text, textIn, String.toList_ofList, if_neg nonzero]
  rfl

/-- A fraction is written in plain notation when no exponent is needed. -/
theorem isPlain_of_fraction (representable : Representable magnitude) (positive : 0 < magnitude)
    (fraction : ¬2 ^ 1074 ∣ magnitude) (large : ¬point magnitude ≤ -4) :
    IsPlain (finite false magnitude representable).compactText.toList
      (finite false magnitude representable) := by
  have shortened := readsAs_shortest positive
  obtain ⟨parts, places, text, proper, same⟩ := exists_parts_decimalText
    (rfl : Notation64.plain.pointBeforeExponent = false) (digits_pos_of_readsAs positive shortened)
  have noExponent : parts.exponent = none := by
    have plain : 'e' ∉ decimalText .plain (shortest magnitude) := fun member =>
      (exponent_mem_decimalText_iff.mp member).elim large
        (Int.not_lt.mpr (point_le_of_not_whole representable fraction))
    cases found : parts.exponent with
    | none => rfl
    | some exponent =>
        rw [text, Parts.text, found] at plain
        simp [exponentText] at plain
  have digits : parts.value =
      ⟨digitsValue (parts.whole ++ parts.places), -parts.places.length⟩ := by
    rw [Parts.value, noExponent, Option.getD_none, Int.zero_sub]
  have reads : Decimal.ReadsAs ⟨digitsValue (parts.whole ++ parts.places), -parts.places.length⟩
      magnitude := by
    rw [← digits, same]
    exact readsAs_shift shortened places
  refine ⟨parts.whole, parts.places, fun empty => ?_, ?_, ?_, ?_⟩
  · rcases proper.leading with zero | ⟨first, rest, visible, -⟩
    · rw [empty] at zero
      cases zero
    · rw [empty] at visible
      cases visible
  · exact List.forall_mem_append.mpr ⟨proper.whole_digits, proper.places_digits⟩
  · rw [compactText_of_fraction representable fraction, text, Parts.text, noExponent,
      Option.map_none, Option.getD_none, List.append_nil]
  · exact ofDecimal_of_readsAs representable positive reads false

theorem representable_one : Representable 1 :=
  ⟨⟨1, 0, by decide, rfl⟩, by decide +kernel⟩

theorem representable_zero : Representable 0 :=
  ⟨⟨0, 0, by decide, rfl⟩, Nat.one_pos.trans representable_one.2⟩

/-- A positive number is infinite, or it has a magnitude and no sign. -/
theorem positive_cases {value : Binary64} (positive : lt 0 value = true) :
    value = infinite false ∨ ∃ (magnitude : Nat) (representable : Representable magnitude),
      0 < magnitude ∧ value = finite false magnitude representable := by
  have literal : (0 : Binary64) = finite false 0 representable_zero := by
    change ofDecimal false 0 0 = _
    rw [ofDecimal, if_pos rfl]
    exact zero_eq_finite representable_zero false
  rw [literal] at positive
  cases value with
  | nan => cases positive
  | infinite negative =>
      cases negative with
      | true => cases positive
      | false => exact Or.inl rfl
  | finite negative magnitude representable =>
      cases negative with
      | true =>
          simp only [lt, Bool.false_eq_true, if_false, if_true, decide_eq_true_eq] at positive
          omega
      | false =>
          simp only [lt, Bool.false_eq_true, if_false, decide_eq_true_eq] at positive
          exact Or.inr ⟨magnitude, representable, by omega, rfl⟩

/-- Between zero and any other positive number there is the smallest one. -/
theorem lt_or_eq_of_positive {value : Binary64} (positive : lt 0 value = true) :
    lt 5e-324 value = true ∨ value = 5e-324 := by
  have literal : (5e-324 : Binary64) = finite false 1 representable_one := by decide +kernel
  rw [literal]
  rcases positive_cases positive with rfl | ⟨magnitude, representable, nonzero, rfl⟩
  · exact Or.inl rfl
  · rcases Nat.eq_or_lt_of_le (Nat.succ_le_of_lt nonzero) with rfl | above
    · exact Or.inr rfl
    · exact Or.inl (by simpa [lt] using above)

/-- A finite number from one ten-thousandth on is written in plain notation. -/
theorem isPlain_compactText {value : Binary64} (isFinite : value.isFinite = true)
    (positive : lt 0 value = true) (large : lt value 0.0001 = false) :
    IsPlain value.compactText.toList value := by
  rcases positive_cases positive with rfl | ⟨magnitude, representable, nonzero, rfl⟩
  · cases isFinite
  · by_cases whole : 2 ^ 1074 ∣ magnitude
    · exact isPlain_of_whole representable nonzero whole
    · refine isPlain_of_fraction representable nonzero whole fun small => ?_
      rw [point_le_iff representable nonzero, large] at small
      cases small

/-- Any other positive number is written with letters. -/
theorem of_isPlain_compactText {value number : Binary64} (positive : lt 0 value = true)
    (plain : IsPlain value.compactText.toList number) :
    value.isFinite = true ∧ lt value 0.0001 = false := by
  have noLetter {c : Char} (letter : ¬(c.isDigit = true ∨ c = '.')) :
      c ∉ value.compactText.toList := fun member => letter (plain.isDigit_or_point member)
  rcases positive_cases positive with rfl | ⟨magnitude, representable, nonzero, rfl⟩
  · exact absurd (by decide) (@noLetter 'n' (by decide))
  · refine ⟨rfl, Bool.eq_false_iff.mpr fun small => ?_⟩
    have exponent : 'e' ∈ decimalText .plain (shortest magnitude) :=
      exponent_mem_decimalText_iff.mpr (Or.inl ((point_le_iff representable nonzero).mpr small))
    rw [← compactText_of_fraction representable (not_dvd_of_lt representable nonzero small)]
      at exponent
    exact noLetter (by decide) exponent

end Binary64

end CrossRef
