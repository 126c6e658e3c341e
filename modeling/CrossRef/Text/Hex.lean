/-!
Hexadecimal numerals of a fixed width.
-/

namespace CrossRef.Text

/-- The digits of a number, the most significant first; digits beyond the width are dropped. -/
def lowerHex : Nat → Nat → List Char
  | 0, _ => []
  | width + 1, value => lowerHex width (value / 16) ++ [Nat.digitChar (value % 16)]

/-- The same digits with upper case letters. -/
def upperHex (width value : Nat) : List Char :=
  (lowerHex width value).map Char.toUpper

/-- The numeral has the width asked for. -/
@[simp] theorem length_lowerHex (width value : Nat) : (lowerHex width value).length = width := by
  induction width generalizing value with
  | zero => rfl
  | succ width ih => simp [lowerHex, ih]

end CrossRef.Text
