import CrossRef.Proofs.Number.ReadBack

/-!
The order of numbers and of the decimals that are read as them: the reading intervals of different
numbers follow one another, so that decimals are in the same order as the numbers they stand for.
-/

namespace CrossRef

/-- The order of decimals, over a common denominator. -/
def Decimal.Less (first second : Decimal) : Prop :=
  first.numerator * second.denominator < second.numerator * first.denominator

namespace Binary64

variable {smaller larger : Nat}

/-- A magnitude fills at most 53 bits of its unit. -/
theorem lt_units (magnitude : Nat) : magnitude < 2 ^ 53 * 2 ^ spareBits magnitude := by
  rcases Nat.lt_or_ge magnitude (2 ^ 53) with small | large
  · rw [spareBits_of_lt small]
    simpa using small
  · exact (spareBits_bounds large).2

/-- A larger magnitude has at least as many spare bits. -/
theorem spareBits_mono (ordered : smaller ≤ larger) : spareBits smaller ≤ spareBits larger := by
  rcases Nat.lt_or_ge smaller (2 ^ 53) with small | large
  · rw [spareBits_of_lt small]
    exact Nat.zero_le _
  · have between : 2 ^ (52 + spareBits smaller) < 2 ^ (53 + spareBits larger) := by
      rw [Nat.pow_add, Nat.pow_add]
      exact ((spareBits_bounds large).1.trans ordered).trans_lt (lt_units larger)
    have exponents := (Nat.pow_lt_pow_iff_right (by decide : 1 < 2)).mp between
    omega

/-- A number leaves room for one more unit below the next power of two. -/
theorem add_unit_le (representable : Representable smaller) :
    smaller + 2 ^ spareBits smaller ≤ 2 ^ 53 * 2 ^ spareBits smaller := by
  obtain ⟨units, counted⟩ := dvd_of_representable representable
  have bound := lt_units smaller
  have positive := Nat.two_pow_pos (spareBits smaller)
  generalize 2 ^ spareBits smaller = unit at *
  subst counted
  have full : units + 1 ≤ 2 ^ 53 := by
    rw [Nat.mul_comm] at bound
    exact Nat.lt_of_mul_lt_mul_right bound
  calc unit * units + unit = (units + 1) * unit := by ring
    _ ≤ 2 ^ 53 * unit := Nat.mul_le_mul_right _ full

/-- The lower end of the interval of a number is half a unit below it, and half of that at a power
of two. -/
theorem lower_bounds (representable : Representable larger) :
    4 * larger ≤ (readingInterval larger).lower + 2 * 2 ^ spareBits larger ∧
      (spareBits larger = 0 ∨ 2 ^ 52 * 2 ^ spareBits larger + 2 ^ spareBits larger ≤ larger ∨
        larger = 2 ^ 52 * 2 ^ spareBits larger ∧
          4 * larger ≤ (readingInterval larger).lower + 2 ^ spareBits larger) := by
  obtain ⟨units, counted⟩ := dvd_of_representable representable
  have power : 2 ^ (52 + spareBits larger) = 2 ^ 52 * 2 ^ spareBits larger := Nat.pow_add 2 52 _
  simp only [readingInterval, Nat.pow_eq, power]
  rcases Nat.lt_or_ge larger (2 ^ 53) with small | large
  · have none := spareBits_of_lt small
    refine ⟨?_, Or.inl none⟩
    split <;> omega
  · have least := (spareBits_bounds large).1
    have spare : spareBits larger ≠ 0 := fun none => by
      have most := lt_units larger
      rw [none] at most
      omega
    generalize 2 ^ spareBits larger = unit at *
    subst counted
    refine ⟨by split <;> omega, Or.inr ?_⟩
    by_cases lowest : unit * units = 2 ^ 52 * unit
    · rw [if_pos ⟨spare, lowest⟩]
      exact Or.inr ⟨lowest, by omega⟩
    · -- Any other multiple of the unit is at least one unit further.
      refine Or.inl ?_
      have next : 2 ^ 52 + 1 ≤ units := by
        by_contra few
        have most : units * unit ≤ 2 ^ 52 * unit := Nat.mul_le_mul_right unit (by omega)
        rw [Nat.mul_comm] at most
        omega
      calc 2 ^ 52 * unit + unit = (2 ^ 52 + 1) * unit := by ring
        _ ≤ units * unit := Nat.mul_le_mul_right unit next
        _ = unit * units := Nat.mul_comm _ _

/-- The interval of a number ends where that of a larger number starts, or before. -/
theorem upper_le_lower (first : Representable smaller) (second : Representable larger)
    (less : smaller < larger) :
    (readingInterval smaller).upper ≤ (readingInterval larger).lower := by
  have room := add_unit_le first
  obtain ⟨half, position⟩ := lower_bounds second
  have upper : (readingInterval smaller).upper = 4 * smaller + 2 * 2 ^ spareBits smaller := rfl
  rcases Nat.eq_or_lt_of_le (spareBits_mono less.le) with same | finer
  · -- On one grid the numbers are a unit apart.
    have apart : smaller + 2 ^ spareBits smaller ≤ larger := by
      obtain ⟨count, counted⟩ := dvd_of_representable first
      obtain ⟨units, measured⟩ := dvd_of_representable second
      rw [← same] at measured
      generalize 2 ^ spareBits smaller = unit at *
      subst counted measured
      exact Nat.mul_le_mul_left unit (Nat.lt_of_mul_lt_mul_left less)
    rw [← same] at half
    omega
  · -- The unit of the larger number is at least twice as large.
    obtain ⟨more, bits⟩ := Nat.exists_eq_add_of_lt finer
    have unit : 2 ^ spareBits larger = 2 * 2 ^ spareBits smaller * 2 ^ more := by
      rw [bits]
      ring
    have double : 2 * 2 ^ spareBits smaller ≤ 2 ^ spareBits larger := by
      rw [unit]
      exact Nat.le_mul_of_pos_right _ (Nat.two_pow_pos more)
    generalize 2 ^ spareBits smaller = small at *
    generalize 2 ^ spareBits larger = large at *
    rcases position with none | apart | ⟨lowest, quarter⟩
    · omega
    · omega
    · omega

/-- A quotient in two reading intervals is rounded to both numbers, so they are the same. -/
theorem eq_of_holds {numerator denominator : Nat} (first : Representable smaller)
    (second : Representable larger) (nonzero : 0 < smaller) (positive : 0 < larger)
    (divides : 0 < denominator)
    (holds : (readingInterval smaller).Holds numerator denominator)
    (other : (readingInterval larger).Holds numerator denominator) : smaller = larger :=
  (roundedMagnitude_of_holds first nonzero divides holds).symm.trans
    (roundedMagnitude_of_holds second positive divides other)

/-- Decimals that are read as numbers are in the order of these numbers. -/
theorem less_of_readsAs {low high : Decimal} (first : Representable smaller)
    (second : Representable larger) (nonzero : 0 < smaller) (less : smaller < larger)
    (reads : low.ReadsAs smaller) (other : high.ReadsAs larger) : low.Less high := by
  have between := upper_le_lower first second less
  have below : 4 * low.numerator * high.denominator ≤
      (readingInterval smaller).upper * low.denominator * high.denominator :=
    Nat.mul_le_mul_right _ reads.2.1
  have above : (readingInterval larger).lower * high.denominator * low.denominator ≤
      4 * high.numerator * low.denominator :=
    Nat.mul_le_mul_right _ other.1
  have middle : (readingInterval smaller).upper * low.denominator * high.denominator ≤
      (readingInterval larger).lower * high.denominator * low.denominator := by
    rw [Nat.mul_right_comm]
    exact Nat.mul_le_mul_right _ (Nat.mul_le_mul_right _ between)
  have ordered : low.numerator * high.denominator ≤ high.numerator * low.denominator := by
    have whole := below.trans (middle.trans above)
    rw [Nat.mul_assoc, Nat.mul_assoc] at whole
    exact Nat.le_of_mul_le_mul_left whole (by decide)
  -- Equal decimals are read as one number.
  refine Nat.lt_of_le_of_ne ordered fun equal => less.ne ?_
  have shared := reads.of_eq low.denominator_pos high.denominator_pos equal
  exact eq_of_holds first second nonzero (nonzero.trans less) high.denominator_pos shared other

/-- A decimal is below a power of ten exactly when its digits end before the place of that power. -/
theorem less_powerOfTen_iff {decimal : Decimal} (positive : 0 < decimal.digits) (power : Int) :
    decimal.Less ⟨1, power⟩ ↔
      ((Nat.toDigits 10 decimal.digits).length : Int) + decimal.exponent ≤ power := by
  obtain ⟨digits, exponent⟩ := decimal
  have count : 0 < (Nat.toDigits 10 digits).length := Nat.length_toDigits_pos
  have powers : Decimal.Less ⟨digits, exponent⟩ ⟨1, power⟩ ↔
      digits * 10 ^ (exponent.toNat + (-power).toNat) <
        10 ^ (power.toNat + (-exponent).toNat) := by
    have nonzero := Nat.two_pow_pos 1074
    simp only [Decimal.Less, Decimal.numerator, Decimal.denominator]
    generalize 1074 = bits at *
    have left : digits * 10 ^ exponent.toNat * 2 ^ bits * 10 ^ (-power).toNat =
        digits * 10 ^ (exponent.toNat + (-power).toNat) * 2 ^ bits := by ring
    have right : 1 * 10 ^ power.toNat * 2 ^ bits * 10 ^ (-exponent).toNat =
        10 ^ (power.toNat + (-exponent).toNat) * 2 ^ bits := by ring
    rw [left, right, Nat.mul_lt_mul_right nonzero]
  rw [powers]
  rcases lt_or_ge exponent power with below | above
  · -- The digits are compared with a power of ten of their own.
    have places : power.toNat + (-exponent).toNat =
        (power - exponent).toNat + (exponent.toNat + (-power).toNat) := by omega
    rw [places, Nat.pow_add 10 (power - exponent).toNat,
      Nat.mul_lt_mul_right (Nat.pow_pos (by decide)),
      ← Nat.length_toDigits_le_iff (by decide) (by omega)]
    simp only
    omega
  · refine iff_of_false ?_ (by simp only; omega)
    have fewer : 10 ^ (power.toNat + (-exponent).toNat) ≤
        10 ^ (exponent.toNat + (-power).toNat) := Nat.pow_le_pow_right (by decide) (by omega)
    exact Nat.not_lt.mpr (fewer.trans (Nat.le_mul_of_pos_left _ positive))

/-! Limits. -/

/-- No number is below itself. -/
theorem lt_irrefl (value : Binary64) : lt value value = false := by
  cases value <;> simp [lt]

/-- Any number that is not undefined stands on one side of two others, or on both. -/
theorem lt_or_lt {low middle high : Binary64} (less : lt low high = true) (known : middle ≠ nan) :
    lt low middle = true ∨ lt middle high = true := by
  cases middle with
  | nan => exact absurd rfl known
  | infinite negative =>
      cases negative <;> cases low <;> cases high <;> simp_all [lt]
  | finite negative magnitude representable =>
      cases low <;> cases high <;> simp_all [lt]
      omega

/-- A number between finite ones is finite. -/
theorem isFinite_of_between {low value high : Binary64} (first : low.isFinite = true)
    (second : high.isFinite = true) (notBelow : lt value low = false)
    (below : lt value high = true) : value.isFinite = true := by
  cases value with
  | nan => cases below
  | finite negative magnitude representable => rfl
  | infinite negative =>
      cases negative with
      | true => cases low <;> simp_all [lt, isFinite]
      | false => cases high <;> simp_all [lt, isFinite]

/-- A finite value is brought between the limits, and stays finite when the lower limit is. -/
theorem clamp_bounds {value lower upper : Binary64} (isFinite : value.isFinite = true)
    (limit : lower.isFinite = true) (ordered : lt upper lower = false) :
    (clamp value lower upper).isFinite = true ∧ lt (clamp value lower upper) lower = false ∧
      lt upper (clamp value lower upper) = false := by
  have raised : (max value lower).isFinite = true ∧ lt (max value lower) lower = false := by
    rw [max]
    by_cases below : lt value lower = true
    · rw [if_pos below]
      exact ⟨limit, lt_irrefl lower⟩
    · rw [if_neg below]
      exact ⟨isFinite, Bool.eq_false_iff.mpr below⟩
  rw [clamp, min]
  by_cases above : lt upper (max value lower) = true
  · rw [if_pos above]
    exact ⟨isFinite_of_between limit raised.1 ordered above, ordered, lt_irrefl upper⟩
  · rw [if_neg above]
    exact ⟨raised.1, raised.2, Bool.eq_false_iff.mpr above⟩

/-- The lower limit itself is what any value below it becomes. -/
theorem clamp_of_lt {value lower upper : Binary64} (below : lt value lower = true)
    (ordered : lt upper lower = false) : clamp value lower upper = lower := by
  rw [clamp, max, if_pos below, min, if_neg (Bool.eq_false_iff.mp ordered)]

end Binary64

end CrossRef
