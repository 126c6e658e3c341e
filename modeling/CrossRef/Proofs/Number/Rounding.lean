import CrossRef.Number.Shortest
import Mathlib.Tactic.Ring

/-!
Rounding to the nearest number: every quotient in the reading interval of a magnitude is rounded
to that magnitude. The interval is cut at the halves between neighbours, so the cases are those of
the size of the quotient: on the grid of the magnitude itself, or on the finer one just below a
power of two.
-/

namespace CrossRef.Binary64

/-- A quotient within half of a whole number is rounded to it. At exactly a half the number has to
be even. -/
theorem roundedQuotient_eq {numerator denominator value : Nat} (positive : 0 < denominator)
    (lower : 2 * (value * denominator) ≤ 2 * numerator + denominator)
    (upper : 2 * numerator ≤ 2 * (value * denominator) + denominator)
    (inside : value % 2 = 1 → 2 * (value * denominator) < 2 * numerator + denominator ∧
      2 * numerator < 2 * (value * denominator) + denominator) :
    roundedQuotient numerator denominator = value := by
  obtain ⟨quotient, rest, divided, less⟩ :
      ∃ quotient rest, numerator = denominator * quotient + rest ∧ rest < denominator :=
    ⟨_, _, (Nat.div_add_mod numerator denominator).symm, Nat.mod_lt _ positive⟩
  have whole : numerator / denominator = quotient := by
    rw [divided, Nat.mul_add_div positive, Nat.div_eq_of_lt less, Nat.add_zero]
  have left : numerator % denominator = rest := by
    rw [divided, Nat.mul_add_mod, Nat.mod_eq_of_lt less]
  -- The value is one of the two neighbours: any other is more than half a step away.
  have notBelow : value ≤ quotient + 1 := by
    by_contra far
    have product : denominator * quotient + 2 * denominator ≤ value * denominator := by
      calc denominator * quotient + 2 * denominator = (quotient + 2) * denominator := by ring
        _ ≤ value * denominator := Nat.mul_le_mul_right _ (by omega)
    omega
  have notAbove : quotient ≤ value := by
    by_contra far
    have product : value * denominator + denominator ≤ denominator * quotient := by
      calc value * denominator + denominator = (value + 1) * denominator := by ring
        _ ≤ quotient * denominator := Nat.mul_le_mul_right _ (by omega)
        _ = denominator * quotient := Nat.mul_comm _ _
    omega
  unfold roundedQuotient
  simp only [whole, left]
  rcases Nat.lt_or_ge quotient value with next | same
  · obtain rfl : value = quotient + 1 := by omega
    have product : (quotient + 1) * denominator = denominator * quotient + denominator := by ring
    rw [product] at lower inside
    rw [if_neg (by omega)]
    split <;> omega
  · obtain rfl : value = quotient := by omega
    rw [Nat.mul_comm value] at upper inside
    split
    · rfl
    · rw [if_neg (by omega)]
      omega

/-! The grid of a magnitude. -/

/-- A magnitude with 53 bits and some more has that many spare bits. -/
theorem spareBits_eq {magnitude spare : Nat} (lower : 2 ^ 52 * 2 ^ spare ≤ magnitude)
    (upper : magnitude < 2 ^ 53 * 2 ^ spare) : spareBits magnitude = spare := by
  rw [← Nat.pow_add] at lower upper
  have positive : magnitude ≠ 0 := by
    have := Nat.two_pow_pos (52 + spare)
    omega
  have size : magnitude.log2 = 52 + spare :=
    (Nat.log2_eq_iff positive).mpr ⟨lower, by rwa [show 52 + spare + 1 = 53 + spare by omega]⟩
  rw [spareBits, size]
  omega

/-- A magnitude of 53 bits has no spare bits. -/
theorem spareBits_of_lt {magnitude : Nat} (small : magnitude < 2 ^ 53) :
    spareBits magnitude = 0 := by
  rw [spareBits]
  rcases Nat.eq_zero_or_pos magnitude with rfl | positive
  · decide
  · have size : magnitude.log2 < 53 := (Nat.log2_lt positive.ne').mpr small
    omega

/-- A magnitude from 2⁵³ on lies between the powers of two that its spare bits tell. -/
theorem spareBits_bounds {magnitude : Nat} (large : 2 ^ 53 ≤ magnitude) :
    2 ^ 52 * 2 ^ spareBits magnitude ≤ magnitude ∧
      magnitude < 2 ^ 53 * 2 ^ spareBits magnitude := by
  have positive : magnitude ≠ 0 := by omega
  have size : 53 ≤ magnitude.log2 := (Nat.le_log2 positive).mpr large
  have lower := Nat.log2_self_le positive
  have upper := Nat.lt_log2_self (n := magnitude)
  rw [← Nat.pow_add, ← Nat.pow_add, spareBits]
  rw [show 52 + (magnitude.log2 - 52) = magnitude.log2 by omega,
    show 53 + (magnitude.log2 - 52) = magnitude.log2 + 1 by omega]
  exact ⟨lower, upper⟩

/-- The spare bits of a number are zero: it counts its own units. -/
theorem dvd_of_representable {magnitude : Nat} (representable : Representable magnitude) :
    2 ^ spareBits magnitude ∣ magnitude := by
  obtain ⟨⟨mantissa, shift, bits, rfl⟩, -⟩ := representable
  change 2 ^ spareBits (mantissa * 2 ^ shift) ∣ mantissa * 2 ^ shift
  change mantissa ≤ 2 ^ 53 at bits
  rcases Nat.lt_or_ge (mantissa * 2 ^ shift) (2 ^ 53) with small | large
  · simp [spareBits_of_lt small]
  · obtain ⟨lower, -⟩ := spareBits_bounds large
    rcases Nat.lt_or_eq_of_le bits with less | rfl
    · have powers : 2 ^ (52 + spareBits (mantissa * 2 ^ shift)) < 2 ^ (53 + shift) := by
        rw [Nat.pow_add, Nat.pow_add]
        exact lower.trans_lt (Nat.mul_lt_mul_of_pos_right less (Nat.two_pow_pos shift))
      have le : spareBits (mantissa * 2 ^ shift) ≤ shift := by
        have := (Nat.pow_lt_pow_iff_right (by decide : 1 < 2)).mp powers
        omega
      exact (Nat.pow_dvd_pow 2 le).mul_left mantissa
    · -- A mantissa of 2⁵³ is one of 2⁵² with another spare bit.
      have next : 2 ^ 53 * 2 ^ shift = 2 ^ 52 * 2 ^ (shift + 1) := by ring
      have spare : spareBits (2 ^ 53 * 2 ^ shift) = shift + 1 := by
        have positive := Nat.two_pow_pos shift
        refine spareBits_eq next.ge ?_
        rw [Nat.pow_succ]
        omega
      rw [spare, next]
      exact Nat.dvd_mul_left _ _

/-! Quotients in the reading interval. -/

/-- A quotient of units lies in the interval. -/
def ReadingInterval.Holds (interval : ReadingInterval) (numerator denominator : Nat) : Prop :=
  interval.lower * denominator ≤ 4 * numerator ∧ 4 * numerator ≤ interval.upper * denominator ∧
    (interval.closed = false →
      interval.lower * denominator < 4 * numerator ∧ 4 * numerator < interval.upper * denominator)

/-- A quotient whose size tells the grid is rounded to the nearest point of that grid. -/
theorem roundedMagnitude_eq {numerator denominator spare units : Nat}
    (grid : spareBits (numerator / denominator) = spare)
    (rounded : roundedQuotient numerator (denominator * 2 ^ spare) = units) :
    roundedMagnitude numerator denominator = units * 2 ^ spare := by
  change roundedQuotient numerator (denominator * 2 ^ spareBits (numerator / denominator)) *
    2 ^ spareBits (numerator / denominator) = _
  rw [grid, rounded]

/-- Magnitudes of 53 bits are rounded as whole numbers. -/
theorem roundedMagnitude_of_small {magnitude numerator denominator : Nat}
    (small : magnitude < 2 ^ 53) (positive : 0 < magnitude) (divides : 0 < denominator)
    (holds : (readingInterval magnitude).Holds numerator denominator) :
    roundedMagnitude numerator denominator = magnitude := by
  have spare := spareBits_of_lt small
  have interval : readingInterval magnitude =
      ⟨4 * magnitude - 2, 4 * magnitude, 4 * magnitude + 2, magnitude % 2 == 0⟩ := by
    simp [readingInterval, spare]
  obtain ⟨lower, upper, inside⟩ := interval ▸ holds
  simp only [Nat.sub_mul, Nat.add_mul, Nat.mul_assoc] at lower upper inside
  have atLeast : denominator ≤ magnitude * denominator := Nat.le_mul_of_pos_left _ positive
  have quotient : numerator / denominator < magnitude + 1 := by
    rw [Nat.div_lt_iff_lt_mul divides, Nat.add_mul]
    omega
  have grid : spareBits (numerator / denominator) = 0 := spareBits_of_lt (by omega)
  have rounded : roundedQuotient numerator (denominator * 2 ^ 0) = magnitude := by
    rw [Nat.pow_zero, Nat.mul_one]
    refine roundedQuotient_eq divides (by omega) (by omega) fun odd => ?_
    have strict := inside (by simp [odd])
    omega
  rw [roundedMagnitude_eq grid rounded, Nat.pow_zero, Nat.mul_one]

/-- On the grid between two powers of two a quotient is rounded to the point within half a step. -/
theorem roundedMagnitude_of_grid {units spare numerator denominator step : Nat}
    (divides : 0 < denominator) (steps : denominator * 2 ^ spare = step)
    (least : 2 ^ 52 * step ≤ numerator) (most : numerator < 2 ^ 53 * step)
    (lower : 2 * (units * step) ≤ 2 * numerator + step)
    (upper : 2 * numerator ≤ 2 * (units * step) + step)
    (inside : units % 2 = 1 → 2 * (units * step) < 2 * numerator + step ∧
      2 * numerator < 2 * (units * step) + step) :
    roundedMagnitude numerator denominator = units * 2 ^ spare := by
  have positive : 0 < step := by
    rw [← steps]
    exact Nat.mul_pos divides (Nat.two_pow_pos spare)
  have grid : spareBits (numerator / denominator) = spare := by
    refine spareBits_eq ?_ ?_
    · rw [Nat.le_div_iff_mul_le divides, Nat.mul_assoc, Nat.mul_comm _ denominator, steps]
      exact least
    · rw [Nat.div_lt_iff_lt_mul divides, Nat.mul_assoc, Nat.mul_comm _ denominator, steps]
      exact most
  refine roundedMagnitude_eq grid ?_
  rw [steps]
  exact roundedQuotient_eq positive lower upper inside

/-- The interval of a magnitude with spare bits, in halves of its unit. -/
theorem readingInterval_of_large {units spare : Nat} (least : 2 ^ 52 ≤ units)
    (most : units < 2 ^ 53) :
    readingInterval (units * 2 ^ (spare + 1)) =
      { lower := 8 * (units * 2 ^ spare) - if units = 2 ^ 52 then 2 * 2 ^ spare else 4 * 2 ^ spare
        value := 8 * (units * 2 ^ spare)
        upper := 8 * (units * 2 ^ spare) + 4 * 2 ^ spare
        closed := units % 2 == 0 } := by
  have positive := Nat.two_pow_pos (spare + 1)
  have bits : spareBits (units * 2 ^ (spare + 1)) = spare + 1 :=
    spareBits_eq (Nat.mul_le_mul_right _ least) (Nat.mul_lt_mul_of_pos_right most positive)
  have lowest : units * 2 ^ (spare + 1) = 2 ^ (52 + (spare + 1)) ↔ units = 2 ^ 52 := by
    rw [Nat.pow_add 2 52]
    exact Nat.mul_left_inj positive.ne'
  have doubled : 4 * (units * 2 ^ (spare + 1)) = 8 * (units * 2 ^ spare) := by ring
  have unit : 2 ^ (spare + 1) = 2 * 2 ^ spare := by ring
  have quotient : units * (2 * 2 ^ spare) / (2 * 2 ^ spare) = units :=
    Nat.mul_div_cancel _ (by have := Nat.two_pow_pos spare; omega)
  simp only [readingInterval, Nat.pow_eq, bits, lowest, doubled]
  have fourfold : 2 * (2 * 2 ^ spare) = 4 * 2 ^ spare := by ring
  simp only [unit, quotient, fourfold, ne_eq, Nat.add_one_ne_zero, not_false_eq_true, true_and]

/-- Magnitudes with spare bits: at a power of two the quotients below it lie on the finer grid, and
all others on the grid of the magnitude. -/
theorem roundedMagnitude_of_large {units spare numerator denominator : Nat}
    (least : 2 ^ 52 ≤ units) (most : units < 2 ^ 53) (divides : 0 < denominator)
    (holds : (readingInterval (units * 2 ^ (spare + 1))).Holds numerator denominator) :
    roundedMagnitude numerator denominator = units * 2 ^ (spare + 1) := by
  obtain ⟨lower, upper, inside⟩ := readingInterval_of_large least most ▸ holds
  obtain ⟨half, halves⟩ : ∃ half, denominator * 2 ^ spare = half := ⟨_, rfl⟩
  have positive : 0 < half := by
    rw [← halves]
    exact Nat.mul_pos divides (Nat.two_pow_pos spare)
  have product (count : Nat) : count * 2 ^ spare * denominator = count * half := by
    rw [Nat.mul_assoc, Nat.mul_comm _ denominator, halves]
  have steps : denominator * 2 ^ (spare + 1) = 2 * half := by
    rw [← halves]
    ring
  have above : 2 ^ 52 * half ≤ units * half := Nat.mul_le_mul_right _ least
  have below : units * half + half ≤ 2 ^ 53 * half := by
    calc units * half + half = (units + 1) * half := by ring
      _ ≤ 2 ^ 53 * half := Nat.mul_le_mul_right _ most
  have double : units * (2 * half) = 2 * (units * half) := by ring
  simp only [Nat.sub_mul, Nat.add_mul, Nat.mul_assoc 8, product] at lower upper inside
  -- Below a power of two the points lie half as far apart. Only there does the grid change inside
  -- the interval.
  by_cases lowest : units = 2 ^ 52
  · simp only [lowest, if_true, product] at lower upper
    by_cases finer : numerator < 2 * (units * half)
    · have double : 2 * units * half = 2 * (units * half) := by ring
      have refined : units * 2 ^ (spare + 1) = 2 * units * 2 ^ spare := by ring
      rw [refined]
      refine roundedMagnitude_of_grid divides halves ?_ ?_ ?_ ?_ fun odd => ?_
      all_goals
        rw [lowest] at *
        omega
    · refine roundedMagnitude_of_grid divides steps ?_ ?_ ?_ ?_ fun odd => ?_
      all_goals
        rw [lowest] at *
        omega
  · simp only [lowest, if_false, product] at lower inside
    have next : 2 ^ 52 * half + half ≤ units * half := by
      calc 2 ^ 52 * half + half = (2 ^ 52 + 1) * half := by ring
        _ ≤ units * half := Nat.mul_le_mul_right _ (by omega)
    refine roundedMagnitude_of_grid divides steps ?_ ?_ ?_ ?_ fun odd => ?_
    · omega
    · omega
    · omega
    · omega
    · have strict := inside (by simp [odd])
      omega

/-- Every quotient in the reading interval of a number is rounded to that number. -/
theorem roundedMagnitude_of_holds {magnitude numerator denominator : Nat}
    (representable : Representable magnitude) (positive : 0 < magnitude)
    (divides : 0 < denominator)
    (holds : (readingInterval magnitude).Holds numerator denominator) :
    roundedMagnitude numerator denominator = magnitude := by
  rcases Nat.lt_or_ge magnitude (2 ^ 53) with small | large
  · exact roundedMagnitude_of_small small positive divides holds
  · obtain ⟨least, most⟩ := spareBits_bounds large
    obtain ⟨units, counted⟩ := dvd_of_representable representable
    obtain ⟨spare, bits⟩ : ∃ spare, spareBits magnitude = spare + 1 := by
      refine Nat.exists_eq_add_one.mpr ?_
      by_contra none
      rw [Nat.eq_zero_of_not_pos none] at most
      omega
    rw [bits, Nat.mul_comm] at counted
    rw [bits, counted] at least most
    subst counted
    exact roundedMagnitude_of_large (Nat.le_of_mul_le_mul_right least (Nat.two_pow_pos _))
      (Nat.lt_of_mul_lt_mul_right most) divides holds

end CrossRef.Binary64
