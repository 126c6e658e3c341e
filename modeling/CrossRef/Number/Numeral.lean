import CrossRef.Number.Binary64
import CrossRef.Text.Blank
import CrossRef.Text.Digit

/-!
Numerals: how a number is read from text. Two readers share one grammar. The lenient reader takes
the digits of every script and low lines between digits; the strict one is for settings.
-/

namespace CrossRef.Numeral

/-- The value of ASCII digits. -/
def digitsValue (digits : List Char) : Nat :=
  digits.foldl (fun value digit => value * 10 + (digit.toNat - '0'.toNat)) 0

/-- A sign may stand before a numeral. -/
def takeSign : List Char → Bool × List Char
  | '-' :: rest => (true, rest)
  | '+' :: rest => (false, rest)
  | text => (false, text)

/-- The exponent of a numeral is a letter, perhaps a sign, and digits up to the end. -/
def exponent? : List Char → Option Int
  | [] => some 0
  | mark :: rest =>
    if mark = 'e' ∨ mark = 'E' then
      let (negative, digits) := takeSign rest
      if digits.isEmpty || !digits.all Char.isDigit then none
      else some (if negative then -(digitsValue digits : Int) else digitsValue digits)
    else none

/-- Digits, perhaps a point and more digits, and perhaps an exponent. One digit is needed. -/
def decimal? (negative : Bool) (text : List Char) : Option Binary64 :=
  let whole := text.takeWhile Char.isDigit
  let afterWhole := text.dropWhile Char.isDigit
  let (places, rest) := match afterWhole with
    | '.' :: fraction => (fraction.takeWhile Char.isDigit, fraction.dropWhile Char.isDigit)
    | _ => ([], afterWhole)
  if whole.isEmpty && places.isEmpty then none
  else (exponent? rest).map fun exponent =>
    .ofDecimal negative (digitsValue (whole ++ places)) (exponent - places.length)

/-- The words for numbers that are not finite, in any case. -/
def special? (negative : Bool) (text : List Char) : Option Binary64 :=
  let word := String.ofList (text.map Char.toLower)
  if word = "inf" ∨ word = "infinity" then some (.infinite negative)
  else if word = "nan" then some .nan
  else none

/-- A numeral in ASCII with no blanks around it. -/
def ascii? (text : List Char) : Option Binary64 :=
  let (negative, rest) := takeSign text
  (special? negative rest).or (decimal? negative rest)

/-- Every low line stands between two digits. -/
def separated : Option Char → List Char → Bool
  | _, [] => true
  | before, '_' :: rest =>
    (before.any Char.isDigit) && (rest.head?.any Char.isDigit) && separated (some '_') rest
  | _, c :: rest => separated (some c) rest

/-- A digit of any script is replaced by the ASCII digit of its value. -/
def asciiDigit (c : Char) : Char :=
  match Text.digitValue? c with
  | some value => Nat.digitChar value
  | none => c

/-- The lenient reader: white space around the numeral, digits of any script, and low lines
between digits. -/
def lenient? (text : String) : Option Binary64 :=
  let plain := (Text.strip Text.isWhiteSpace text.toList).map asciiDigit
  if separated none plain then ascii? (plain.filter (· != '_')) else none

end CrossRef.Numeral
