import CrossRef.Proofs.Number.Rounding

/-!
Decimals that read back: the shortest decimal of a number lies in its reading interval, so it is
read as the number, and so is every other spelling of the same decimal.
-/

namespace CrossRef

namespace Decimal

/-- The units of a decimal, over its denominator. -/
def numerator (decimal : Decimal) : Nat :=
  decimal.digits * 10 ^ decimal.exponent.toNat * 2 ^ 1074

/-- The power of ten that divides the units. -/
def denominator (decimal : Decimal) : Nat :=
  10 ^ (-decimal.exponent).toNat

theorem denominator_pos (decimal : Decimal) : 0 < decimal.denominator :=
  Nat.pow_pos (by decide)

/-- A decimal is read as a magnitude when it lies in its interval. -/
def ReadsAs (decimal : Decimal) (magnitude : Nat) : Prop :=
  (Binary64.readingInterval magnitude).Holds decimal.numerator decimal.denominator

/-- The same decimal with more digits: zeros at the end, and a smaller exponent. -/
def shift (decimal : Decimal) (places : Nat) : Decimal :=
  ⟨decimal.digits * 10 ^ places, decimal.exponent - places⟩

end Decimal

namespace Binary64

variable {magnitude : Nat}

/-! The interval. -/

/-- An interval holds all quotients of one value or none. -/
theorem ReadingInterval.Holds.of_eq {interval : ReadingInterval}
    {numerator denominator other divisor : Nat} (holds : interval.Holds numerator denominator)
    (positive : 0 < denominator) (divides : 0 < divisor)
    (equal : numerator * divisor = other * denominator) : interval.Holds other divisor := by
  obtain ⟨lower, upper, inside⟩ := holds
  have swap (bound : Nat) : bound * divisor * denominator = bound * denominator * divisor := by
    ring
  have scaled : 4 * other * denominator = 4 * numerator * divisor := by
    rw [Nat.mul_assoc, ← equal, Nat.mul_assoc]
  refine ⟨?_, ?_, fun isOpen => ⟨?_, ?_⟩⟩
  · refine Nat.le_of_mul_le_mul_right ?_ positive
    rw [swap, scaled]
    exact Nat.mul_le_mul_right _ lower
  · refine Nat.le_of_mul_le_mul_right ?_ positive
    rw [swap, scaled]
    exact Nat.mul_le_mul_right _ upper
  · refine Nat.lt_of_mul_lt_mul_right (a := denominator) ?_
    rw [swap, scaled]
    exact Nat.mul_lt_mul_of_pos_right (inside isOpen).1 divides
  · refine Nat.lt_of_mul_lt_mul_right (a := denominator) ?_
    rw [swap, scaled]
    exact Nat.mul_lt_mul_of_pos_right (inside isOpen).2 divides

/-- The unit of a magnitude is no larger than the magnitude, and far smaller if it is not one. -/
theorem unit_le (magnitude : Nat) :
    2 ^ spareBits magnitude = 1 ∨ 2 ^ 52 * 2 ^ spareBits magnitude ≤ magnitude := by
  rcases Nat.lt_or_ge magnitude (2 ^ 53) with small | large
  · rw [spareBits_of_lt small]
    exact Or.inl rfl
  · exact Or.inr (spareBits_bounds large).1

/-- The interval lies around its number, above the smallest quarters and not far beyond. -/
theorem readingInterval_bounds (positive : 0 < magnitude) :
    2 ≤ (readingInterval magnitude).lower ∧
      (readingInterval magnitude).lower < 4 * magnitude ∧
      4 * magnitude < (readingInterval magnitude).upper ∧
      (readingInterval magnitude).upper ≤ 6 * magnitude := by
  have unit := unit_le magnitude
  have large := Nat.two_pow_pos (spareBits magnitude)
  simp only [readingInterval, Nat.pow_eq]
  refine ⟨?_, ?_, ?_, ?_⟩
  all_goals
    generalize 2 ^ spareBits magnitude = step at *
    try split
    all_goals omega

/-- The number itself lies in its interval. -/
theorem holds_self (positive : 0 < magnitude) {denominator : Nat} (divides : 0 < denominator) :
    (readingInterval magnitude).Holds (magnitude * denominator) denominator := by
  obtain ⟨-, lower, upper, -⟩ := readingInterval_bounds positive
  have below := Nat.mul_lt_mul_of_pos_right lower divides
  have above := Nat.mul_lt_mul_of_pos_right upper divides
  rw [Nat.mul_assoc] at below above
  exact ⟨below.le, above.le, fun _ => ⟨below, above⟩⟩

/-! The shortest decimal. -/

theorem fourfold (bits : Nat) : 2 ^ (bits + 2) = 4 * 2 ^ bits := by
  ring

/-- A grid point that the interval contains is read as the number. -/
theorem readsAs_of_contains {exponent : Int} {point : Nat}
    (contained : (readingInterval magnitude).contains (gridScale exponent) point = true) :
    Decimal.ReadsAs ⟨point, exponent⟩ magnitude := by
  obtain ⟨step, divisor, scale, units, divides⟩ : ∃ step divisor,
      gridScale exponent = (step, divisor) ∧
        4 * Decimal.numerator ⟨point, exponent⟩ = point * step ∧
        Decimal.denominator ⟨point, exponent⟩ = divisor := by
    have quarters := fourfold 1074
    simp only [Nat.reduceAdd] at quarters
    simp only [gridScale, Decimal.numerator, Decimal.denominator, Nat.pow_eq, quarters]
    generalize (2 : Nat) ^ 1074 = unit
    split
    · next whole =>
        refine ⟨_, _, rfl, by ring, ?_⟩
        rw [show (-exponent).toNat = 0 by omega, Nat.pow_zero]
    · next fractional =>
        refine ⟨_, _, rfl, ?_, rfl⟩
        rw [show exponent.toNat = 0 by omega]
        ring
  rw [ReadingInterval.contains, scale] at contained
  rw [Decimal.ReadsAs, ReadingInterval.Holds, units, divides]
  simp only at contained
  split at contained
  · next isClosed =>
      simp only [Bool.and_eq_true, decide_eq_true_eq] at contained
      exact ⟨contained.1, contained.2, by simp [isClosed]⟩
  · simp only [Bool.and_eq_true, decide_eq_true_eq] at contained
    exact ⟨contained.1.le, contained.2.le, fun _ => contained⟩

/-- The point of a grid that is taken lies in the interval. -/
theorem contains_of_gridPoint? {interval : ReadingInterval} {exponent : Int} {point : Nat}
    (found : gridPoint? interval exponent = some point) :
    interval.contains (gridScale exponent) point = true := by
  simp only [gridPoint?] at found
  split at found
  · next both =>
      obtain ⟨below, above⟩ := Bool.and_eq_true_iff.mp both
      obtain rfl := Option.some.inj found
      split
      · exact below
      · split
        · exact above
        · rcases Nat.mod_two_eq_zero_or_one
              (interval.value * (gridScale exponent).2 / (gridScale exponent).1) with even | odd
          · rw [even]
            exact below
          · rw [odd]
            exact above
  · split at found
    · next below =>
        obtain rfl := Option.some.inj found
        exact below
    · split at found
      · next above =>
          obtain rfl := Option.some.inj found
          exact above
      · cases found

/-- Whatever grid is taken, and also without one, the decimal is read as the number. -/
theorem readsAs_shortestFrom (positive : 0 < magnitude) (grids : Nat) (exponent : Int) :
    (shortestFrom magnitude (readingInterval magnitude) grids exponent).ReadsAs magnitude := by
  induction grids generalizing exponent with
  | zero =>
      -- No grid was left: the decimal is the number itself, with all its digits.
      have whole (places : Nat) : magnitude * Nat.pow 5 places * 10 ^ 0 * 2 ^ places =
          magnitude * 10 ^ places := by
        rw [Nat.pow_eq, Nat.pow_zero, Nat.mul_one, Nat.mul_assoc, ← Nat.mul_pow]
      have exact : (shortestFrom magnitude (readingInterval magnitude) 0 exponent).numerator =
          magnitude *
            (shortestFrom magnitude (readingInterval magnitude) 0 exponent).denominator := by
        have noTens : (-1074 : Int).toNat = 0 := rfl
        have tens : (-(-1074) : Int).toNat = 1074 := rfl
        simp only [shortestFrom, Decimal.numerator, Decimal.denominator, noTens, tens]
        generalize 1074 = places
        exact whole places
      rw [Decimal.ReadsAs, exact]
      exact holds_self positive (Decimal.denominator_pos _)
  | succ grids ih =>
      rw [shortestFrom]
      split
      · next point found => exact readsAs_of_contains (contains_of_gridPoint? found)
      · exact ih (exponent - 1)

theorem readsAs_shortest (positive : 0 < magnitude) : (shortest magnitude).ReadsAs magnitude :=
  readsAs_shortestFrom positive _ _

/-! Reading. -/

/-- The number nearest to a quotient is the one that the quotient is rounded to. -/
theorem nearest_eq_finite {numerator denominator : Nat}
    (rounded : roundedMagnitude numerator denominator = magnitude)
    (representable : Representable magnitude) (negative : Bool) :
    nearest negative numerator denominator = finite negative magnitude representable := by
  subst rounded
  exact dif_pos representable.2

theorem zero_eq_finite (representable : Representable 0) (negative : Bool) :
    zero negative = finite negative 0 representable :=
  nearest_eq_finite (by decide) representable negative

/-- Zero lies in no interval. -/
theorem digits_pos_of_readsAs (positive : 0 < magnitude) {decimal : Decimal}
    (reads : decimal.ReadsAs magnitude) : 0 < decimal.digits := by
  have lower := reads.1
  have bound := (readingInterval_bounds positive).1
  have product := Nat.mul_pos (by omega : 0 < (readingInterval magnitude).lower)
    decimal.denominator_pos
  refine Nat.pos_of_ne_zero fun zero => ?_
  rw [Decimal.numerator, zero, Nat.zero_mul, Nat.zero_mul] at lower
  omega

/-- A decimal with an exponent above 310 is beyond all intervals. -/
theorem not_readsAs_of_large (representable : Representable magnitude) (positive : 0 < magnitude)
    {digits : Nat} (nonzero : digits ≠ 0) {exponent : Int} (large : 310 < exponent) :
    ¬Decimal.ReadsAs ⟨digits, exponent⟩ magnitude := by
  rintro ⟨-, upper, -⟩
  have limit : 6 * magnitudeLimit ≤ 4 * (10 ^ 311 * 2 ^ 1074) := by decide +kernel
  have bound := (readingInterval_bounds positive).2.2.2
  have below : magnitude < magnitudeLimit := representable.2
  have divisor : Decimal.denominator ⟨digits, exponent⟩ = 1 := by
    rw [Decimal.denominator, show (-exponent).toNat = 0 by omega, Nat.pow_zero]
  have power : 10 ^ 311 ≤ 10 ^ exponent.toNat := pow_le_pow_right₀ (by decide) (by omega)
  have least : 10 ^ 311 * 2 ^ 1074 ≤ Decimal.numerator ⟨digits, exponent⟩ := by
    refine Nat.mul_le_mul_right _ (power.trans ?_)
    exact Nat.le_mul_of_pos_left _ (Nat.pos_of_ne_zero nonzero)
  rw [divisor] at upper
  omega

/-- A decimal below 10⁻³³⁰ is below all intervals. -/
theorem not_readsAs_of_small (positive : 0 < magnitude) {digits : Nat} {exponent : Int}
    (small : exponent < -(330 + digits.log2 : Int)) :
    ¬Decimal.ReadsAs ⟨digits, exponent⟩ magnitude := by
  rintro ⟨lower, -, -⟩
  have limit : 4 * 2 ^ 1074 < 10 ^ 331 := by decide +kernel
  have bound := (readingInterval_bounds positive).1
  have size : digits < 2 * 2 ^ digits.log2 := by
    rw [← Nat.pow_succ']
    exact Nat.lt_log2_self
  have units : Decimal.numerator ⟨digits, exponent⟩ = digits * 2 ^ 1074 := by
    rw [Decimal.numerator, show exponent.toNat = 0 by omega, Nat.pow_zero, Nat.mul_one]
  have power : 10 ^ 331 * 2 ^ digits.log2 ≤ Decimal.denominator ⟨digits, exponent⟩ := by
    calc 10 ^ 331 * 2 ^ digits.log2 ≤ 10 ^ 331 * 10 ^ digits.log2 :=
          Nat.mul_le_mul_left _ (Nat.pow_le_pow_left (by decide) _)
      _ = 10 ^ (331 + digits.log2) := (pow_add _ _ _).symm
      _ ≤ 10 ^ (-exponent).toNat := pow_le_pow_right₀ (by decide) (by omega)
  rw [units] at lower
  generalize (2 : Nat) ^ 1074 = one at *
  generalize (10 : Nat) ^ 331 = tens at *
  have least := Nat.mul_le_mul bound power
  have most := Nat.mul_le_mul_right one size.le
  have strict := Nat.mul_lt_mul_of_pos_right limit (Nat.two_pow_pos digits.log2)
  have product : 2 * 2 ^ digits.log2 * one * 2 = 4 * one * 2 ^ digits.log2 := by ring
  omega

/-- A decimal in the interval of a number is read as that number. -/
theorem ofDecimal_of_readsAs (representable : Representable magnitude) (positive : 0 < magnitude)
    {digits : Nat} {exponent : Int} (reads : Decimal.ReadsAs ⟨digits, exponent⟩ magnitude)
    (negative : Bool) :
    ofDecimal negative digits exponent = finite negative magnitude representable := by
  have nonzero : digits ≠ 0 := (digits_pos_of_readsAs positive reads).ne'
  have notLarge : ¬310 < exponent := fun large =>
    not_readsAs_of_large representable positive nonzero large reads
  have notSmall : ¬exponent < -(330 + digits.log2 : Int) := fun small =>
    not_readsAs_of_small positive small reads
  have rounded : nearest negative (digits * 10 ^ exponent.toNat * 2 ^ 1074)
      (10 ^ (-exponent).toNat) = finite negative magnitude representable :=
    nearest_eq_finite
      (roundedMagnitude_of_holds representable positive (Decimal.denominator_pos _) reads)
      representable negative
  rewrite [ofDecimal, if_neg nonzero, if_neg notLarge, if_neg notSmall, ← rounded]
  -- The units are a large power, so both sides are compared for any number of bits.
  generalize 1074 = bits
  split
  · next whole =>
      rw [show (-exponent).toNat = 0 by omega, pow_zero]
      rfl
  · next fractional =>
      rw [show exponent.toNat = 0 by omega, pow_zero, Nat.mul_one]
      rfl

/-- More zeros at the end of a decimal do not change what it is read as. -/
theorem readsAs_shift {decimal : Decimal} (reads : decimal.ReadsAs magnitude) (places : Nat) :
    (decimal.shift places).ReadsAs magnitude := by
  obtain ⟨digits, exponent⟩ := decimal
  refine reads.of_eq (Decimal.denominator_pos _) (Decimal.denominator_pos _) ?_
  have powers : 10 ^ exponent.toNat * 10 ^ (-(exponent - places)).toNat =
      10 ^ places * 10 ^ (exponent - places).toNat * 10 ^ (-exponent).toNat := by
    rw [← Nat.pow_add, ← Nat.pow_add, ← Nat.pow_add]
    congr 1
    omega
  simp only [Decimal.numerator, Decimal.denominator, Decimal.shift]
  generalize (2 : Nat) ^ 1074 = one
  calc digits * 10 ^ exponent.toNat * one * 10 ^ (-(exponent - places)).toNat
      = digits * one * (10 ^ exponent.toNat * 10 ^ (-(exponent - places)).toNat) := by ring
    _ = digits * one *
          (10 ^ places * 10 ^ (exponent - places).toNat * 10 ^ (-exponent).toNat) := by rw [powers]
    _ = digits * 10 ^ places * 10 ^ (exponent - places).toNat * one *
          10 ^ (-exponent).toNat := by ring

end Binary64

end CrossRef
