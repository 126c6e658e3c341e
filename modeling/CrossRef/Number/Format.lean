import CrossRef.Number.Shortest

/-!
The text of a number: shortest digits with a point or an exponent, whole numbers without a point,
and percentages with one decimal place.
-/

namespace CrossRef

/-- What a notation decides on its own: the texts of the numbers that are not finite, and whether
a mantissa of one digit has a point before the exponent. -/
structure Notation64 where
  undefinedText : String
  infinityText : String
  pointBeforeExponent : Bool

/-- Numbers in messages and in plain text. -/
def Notation64.plain : Notation64 := ⟨"nan", "inf", false⟩

namespace Binary64

/-- Zeros that fill up a numeral. -/
def zeros (count : Nat) : List Char :=
  List.replicate count '0'

/-- The exponent has a sign and at least two digits. -/
def exponentText (exponent : Int) : List Char :=
  let digits := Nat.toDigits 10 exponent.natAbs
  'e' :: (if exponent < 0 then '-' else '+') :: (zeros (2 - digits.length) ++ digits)

/-- The digits of a decimal with a point, or with an exponent below 10⁻⁴ and from 10¹⁶ on. A
decimal that is whole ends in a point and a zero. -/
def decimalText (style : Notation64) (decimal : Decimal) : List Char :=
  let digits := Nat.toDigits 10 decimal.digits
  let point : Int := digits.length + decimal.exponent
  if point ≤ -4 ∨ 16 < point then
    let mantissa := match digits with
      | [digit] => if style.pointBeforeExponent then [digit, '.', '0'] else [digit]
      | first :: rest => first :: '.' :: rest
      | [] => []
    mantissa ++ exponentText (point - 1)
  else if point ≤ 0 then '0' :: '.' :: (zeros (-point).toNat ++ digits)
  else if digits.length ≤ point.toNat then
    digits ++ zeros (point.toNat - digits.length) ++ ['.', '0']
  else digits.take point.toNat ++ '.' :: digits.drop point.toNat

/-- The sign stands before a negative number, zero included. -/
def signed (negative : Bool) (text : List Char) : List Char :=
  if negative then '-' :: text else text

/-- The text of a number in one notation. -/
def textIn (style : Notation64) : Binary64 → String
  | nan => style.undefinedText
  | infinite negative => String.ofList (signed negative style.infinityText.toList)
  | finite negative magnitude _ =>
    String.ofList <| signed negative <|
      if magnitude = 0 then ['0', '.', '0'] else decimalText style (shortest magnitude)

/-- The plain text of a number. -/
def text : Binary64 → String :=
  textIn .plain

/-- A whole number is written without a point, any other number as plain text. -/
def compactText (value : Binary64) : String :=
  match value.toInt? with
  | some whole => toString whole
  | none => value.text

/-- The number in percent with one decimal place. The product is rounded to a number first, and a
half of the last place goes to the even digit. -/
def percentText (value : Binary64) : String :=
  match value.scale 100 with
  | nan => "nan%"
  | infinite negative => if negative then "-inf%" else "inf%"
  | finite negative magnitude _ =>
    let tenths := roundedQuotient (magnitude * 10) (Nat.pow 2 1074)
    String.ofList <| signed negative <|
      Nat.toDigits 10 (tenths / 10) ++ '.' :: Nat.toDigits 10 (tenths % 10) ++ ['%']

end Binary64

end CrossRef
