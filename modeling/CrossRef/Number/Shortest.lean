import CrossRef.Number.Binary64

/-!
The shortest decimal of a number: of all decimals that are read back as the number, one with the
fewest digits, and of those the nearest.
-/

namespace CrossRef

/-- A positive decimal: the digits as one whole number, times a power of ten. -/
structure Decimal where
  digits : Nat
  exponent : Int
  deriving DecidableEq, Repr

namespace Binary64

/-- The decimals between these ends are read as one number. The ends count quarters of a unit,
and belong to the interval when the number has an even last bit. -/
structure ReadingInterval where
  lower : Nat
  value : Nat
  upper : Nat
  closed : Bool

/-- Half the distance to the neighbours on each side. Below a power of two the neighbours are
twice as dense. -/
def readingInterval (magnitude : Nat) : ReadingInterval :=
  let spare := spareBits magnitude
  let unit := Nat.pow 2 spare
  let below := if spare ≠ 0 ∧ magnitude = Nat.pow 2 (52 + spare) then unit else 2 * unit
  { lower := 4 * magnitude - below
    value := 4 * magnitude
    upper := 4 * magnitude + 2 * unit
    closed := magnitude / unit % 2 == 0 }

/-- The grid of a power of ten: its step and the quarters of a unit, over a common divisor. -/
def gridScale (exponent : Int) : Nat × Nat :=
  if 0 ≤ exponent then (Nat.pow 10 exponent.toNat * Nat.pow 2 1076, 1)
  else (Nat.pow 2 1076, Nat.pow 10 (-exponent).toNat)

/-- A point of the grid is read as the number when it lies in the interval. -/
def ReadingInterval.contains (interval : ReadingInterval) (scale : Nat × Nat) (point : Nat) :
    Bool :=
  let position := point * scale.1
  let lower := interval.lower * scale.2
  let upper := interval.upper * scale.2
  if interval.closed then lower ≤ position && position ≤ upper
  else lower < position && position < upper

/-- Of the two grid points around the number the nearer one that is read as it; between equally
near points the even one. -/
def gridPoint? (interval : ReadingInterval) (exponent : Int) : Option Nat :=
  let scale := gridScale exponent
  let value := interval.value * scale.2
  let point := value / scale.1
  let below := interval.contains scale point
  let above := interval.contains scale (point + 1)
  let rest := value % scale.1
  if below && above then
    some (if 2 * rest < scale.1 then point
      else if scale.1 < 2 * rest then point + 1
      else point + point % 2)
  else if below then some point
  else if above then some (point + 1)
  else none

/-- Grids are tried from the coarse to the fine. The last resort is the exact decimal. -/
def shortestFrom (magnitude : Nat) (interval : ReadingInterval) : Nat → Int → Decimal
  | 0, _ => ⟨magnitude * Nat.pow 5 1074, -1074⟩
  | grids + 1, exponent =>
    match gridPoint? interval exponent with
    | some point => ⟨point, exponent⟩
    | none => shortestFrom magnitude interval grids (exponent - 1)

/-- The shortest decimal of a positive magnitude. The first grid is coarser than the number, and
seventeen digits always suffice. -/
def shortest (magnitude : Nat) : Decimal :=
  let coarse := ((magnitude.log2 : Int) - 1074) * 30103 / 100000 + 2
  shortestFrom magnitude (readingInterval magnitude) 24 coarse

end Binary64

end CrossRef
