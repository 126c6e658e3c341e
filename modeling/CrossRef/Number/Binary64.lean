/-!
Binary floating-point numbers of 64 bits with exact arithmetic. A finite number is a sign and a
magnitude, and the magnitude counts units of 2⁻¹⁰⁷⁴, the smallest positive number. So order,
rounding and printing are questions about natural numbers.
-/

namespace CrossRef

/-- The magnitude of 2¹⁰²⁴, which no finite number reaches. -/
def magnitudeLimit : Nat := Nat.pow 2 2098

/-- A magnitude has at most 53 significant bits and stays below the limit. -/
def Representable (magnitude : Nat) : Prop :=
  (∃ mantissa shift, mantissa ≤ Nat.pow 2 53 ∧ magnitude = mantissa * Nat.pow 2 shift) ∧
    magnitude < magnitudeLimit

/-- A number of 64 bits. Zero carries a sign, and no number is equal to the undefined value. -/
inductive Binary64
  | nan
  | infinite (negative : Bool)
  | finite (negative : Bool) (magnitude : Nat) (representable : Representable magnitude)
  deriving DecidableEq

namespace Binary64

/-- The quotient is rounded to the nearest whole number, a half to the even neighbour. -/
def roundedQuotient (numerator denominator : Nat) : Nat :=
  let quotient := numerator / denominator
  let rest := numerator % denominator
  if 2 * rest < denominator then quotient
  else if denominator < 2 * rest then quotient + 1
  else quotient + quotient % 2

/-- Rounding moves to one of the two whole neighbours. -/
theorem roundedQuotient_le (numerator denominator : Nat) :
    roundedQuotient numerator denominator ≤ numerator / denominator + 1 := by
  unfold roundedQuotient
  dsimp only
  split
  · omega
  · split <;> omega

/-- The number of low bits that a magnitude of this size has no room for. -/
def spareBits (magnitude : Nat) : Nat :=
  magnitude.log2 - 52

/-- A quotient of units, rounded to 53 significant bits. -/
def roundedMagnitude (numerator denominator : Nat) : Nat :=
  let spare := spareBits (numerator / denominator)
  roundedQuotient numerator (denominator * Nat.pow 2 spare) * Nat.pow 2 spare

/-- A number without its spare bits has at most 53 bits. -/
theorem div_spareBits_lt (magnitude : Nat) :
    magnitude / Nat.pow 2 (spareBits magnitude) < Nat.pow 2 53 := by
  change magnitude / 2 ^ spareBits magnitude < 2 ^ 53
  apply (Nat.div_lt_iff_lt_mul (Nat.two_pow_pos _)).2
  rw [← Nat.pow_add]
  apply Nat.lt_of_lt_of_le (Nat.lt_log2_self (n := magnitude))
  apply Nat.pow_le_pow_right (by decide)
  unfold spareBits
  omega

/-- Rounding keeps 53 significant bits. -/
theorem representable_roundedMagnitude {numerator denominator : Nat}
    (small : roundedMagnitude numerator denominator < magnitudeLimit) :
    Representable (roundedMagnitude numerator denominator) := by
  refine ⟨⟨_, _, ?_, rfl⟩, small⟩
  have bound := roundedQuotient_le numerator
    (denominator * Nat.pow 2 (spareBits (numerator / denominator)))
  have narrow := div_spareBits_lt (numerator / denominator)
  rw [Nat.div_div_eq_div_mul] at narrow
  omega

/-- The number nearest to a quotient of units; beyond the largest number it is infinite. -/
def nearest (negative : Bool) (numerator denominator : Nat) : Binary64 :=
  if small : roundedMagnitude numerator denominator < magnitudeLimit then
    finite negative (roundedMagnitude numerator denominator)
      (representable_roundedMagnitude small)
  else infinite negative

/-- Zero with a sign. -/
def zero (negative : Bool) : Binary64 :=
  nearest negative 0 1

/-- The number nearest to a decimal. Decimals that are surely too large or too small are decided
by their exponent alone. -/
def ofDecimal (negative : Bool) (digits : Nat) (exponent : Int) : Binary64 :=
  if digits = 0 then zero negative
  else if 310 < exponent then infinite negative
  else if exponent < -(330 + digits.log2 : Int) then zero negative
  else if 0 ≤ exponent then
    nearest negative (digits * Nat.pow 10 exponent.toNat * Nat.pow 2 1074) 1
  else nearest negative (digits * Nat.pow 2 1074) (Nat.pow 10 (-exponent).toNat)

instance : OfScientific Binary64 where
  ofScientific digits down exponent :=
    ofDecimal false digits (if down then -(exponent : Int) else exponent)

instance (value : Nat) : OfNat Binary64 value where
  ofNat := ofDecimal false value 0

instance : Inhabited Binary64 := ⟨zero false⟩

/-- The number nearest to a whole number. -/
def ofInt (value : Int) : Binary64 :=
  ofDecimal (value < 0) value.natAbs 0

/-- The strict order. It holds for no pair with the undefined value, and the two zeros are
equal. -/
def lt : Binary64 → Binary64 → Bool
  | nan, _ | _, nan => false
  | infinite left, infinite right => left && !right
  | infinite left, finite .. => left
  | finite .., infinite right => !right
  | finite leftNegative left _, finite rightNegative right _ =>
    decide ((if leftNegative then -(left : Int) else left) <
      (if rightNegative then -(right : Int) else right))

/-- A finite number is neither infinite nor undefined. -/
def isFinite : Binary64 → Bool
  | finite .. => true
  | nan | infinite _ => false

/-- Both zeros are zero. -/
def isZero : Binary64 → Bool
  | finite _ magnitude _ => magnitude == 0
  | nan | infinite _ => false

/-- The larger of two numbers; the first one where neither is larger. -/
def max (first second : Binary64) : Binary64 :=
  if lt first second then second else first

/-- The smaller of two numbers; the first one where neither is smaller. -/
def min (first second : Binary64) : Binary64 :=
  if lt second first then second else first

/-- The value is brought into the range; where the range is empty the upper end wins. -/
def clamp (value lower upper : Binary64) : Binary64 :=
  min (max value lower) upper

/-- The product with a whole number, rounded. -/
def scale (factor : Nat) : Binary64 → Binary64
  | nan => nan
  | infinite negative => infinite negative
  | finite negative magnitude _ => nearest negative (magnitude * factor) 1

/-- The integer that a finite number without a fraction stands for. -/
def toInt? : Binary64 → Option Int
  | finite negative magnitude _ =>
    if magnitude % Nat.pow 2 1074 = 0 then
      let whole : Int := magnitude / Nat.pow 2 1074
      some (if negative then -whole else whole)
    else none
  | nan | infinite _ => none

end Binary64

end CrossRef
