import CrossRef.Json.Basic
import CrossRef.Number.Numeral

/-!
Reading JSON text. The reader stops at the first fault and tells where it lies. Besides the
numbers of the standard it takes the words for the numbers that are not finite.
-/

namespace CrossRef.Json

/-- The faults of a text, named for what was expected or met. -/
inductive Fault
  | expectedValue
  | expectedName
  | expectedColon
  | expectedComma
  | extraData
  | unterminatedString
  | controlCharacter
  | invalidEscape
  | invalidUnicodeEscape
  | byteOrderMark
  deriving DecidableEq, Repr

/-- The words for a fault. -/
def Fault.words : Fault → String
  | expectedValue => "Expecting value"
  | expectedName => "Expecting property name enclosed in double quotes"
  | expectedColon => "Expecting ':' delimiter"
  | expectedComma => "Expecting ',' delimiter"
  | extraData => "Extra data"
  | unterminatedString => "Unterminated string starting at"
  | controlCharacter => "Invalid control character at"
  | invalidEscape => "Invalid \\escape"
  | invalidUnicodeEscape => "Invalid \\uXXXX escape"
  | byteOrderMark => "Unexpected UTF-8 BOM (decode using utf-8-sig)"

/-- Why a text was not read: a fault at a place, or an integer with too many digits. While
reading, the place is the rest of the text. -/
inductive Obstacle (Place : Type)
  | fault (cause : Fault) (place : Place)
  | tooManyDigits (count : Nat)

/-- A reader takes a value off the front of a text, and leaves the rest. -/
abbrev Reading := Except (Obstacle (List Char))

/-- A fault at the front of the rest of the text. -/
def faultAt {α : Type} (cause : Fault) (rest : List Char) : Reading (α × List Char) :=
  .error (.fault cause rest)

/-- Blanks between the parts of a text. -/
def isSpace (c : Char) : Bool :=
  c == ' ' || c == '\t' || c == '\n' || c == '\r'

/-- The text after its blanks. -/
def skipSpace (text : List Char) : List Char :=
  text.dropWhile isSpace

/-- The value of a hexadecimal digit. -/
def hexValue? (c : Char) : Option Nat :=
  if c.isDigit then some (c.toNat - '0'.toNat)
  else if 'a' ≤ c ∧ c ≤ 'f' then some (c.toNat - 'a'.toNat + 10)
  else if 'A' ≤ c ∧ c ≤ 'F' then some (c.toNat - 'A'.toNat + 10)
  else none

/-- Four hexadecimal digits with at least one character after them. -/
def fourHex? : List Char → Option (Nat × List Char)
  | a :: b :: c :: d :: e :: rest => do
    let a ← hexValue? a
    let b ← hexValue? b
    let c ← hexValue? c
    let d ← hexValue? d
    return (((a * 16 + b) * 16 + c) * 16 + d, e :: rest)
  | _ => none

/-- The first half of a pair that stands for one character beyond the basic plane. -/
def isHighHalf (unit : Nat) : Bool :=
  0xD800 ≤ unit && unit ≤ 0xDBFF

/-- The second half of such a pair. -/
def isLowHalf (unit : Nat) : Bool :=
  0xDC00 ≤ unit && unit ≤ 0xDFFF

/-- The character of one unit. Texts are assumed to consist of Unicode scalar values: a lone half is
none, and is replaced instead of kept. -/
def unitChar (unit : Nat) : Char :=
  if isHighHalf unit || isLowHalf unit then '\uFFFD' else Char.ofNat unit

/-- An escape by number, after the letter that announces it. Two halves that follow one another
make one character. -/
def readUnicodeEscape (text : List Char) : Reading (Char × List Char) :=
  match fourHex? text with
  | none => faultAt .invalidUnicodeEscape ('u' :: text)
  | some (first, rest) =>
    match rest with
    | '\\' :: 'u' :: second =>
      if isHighHalf first && 5 ≤ second.length then
        match fourHex? second with
        | none => faultAt .invalidUnicodeEscape ('u' :: second)
        | some (low, afterPair) =>
          if isLowHalf low then
            .ok (Char.ofNat (0x10000 + (first - 0xD800) * 0x400 + (low - 0xDC00)), afterPair)
          else .ok (unitChar first, rest)
      else .ok (unitChar first, rest)
    | _ => .ok (unitChar first, rest)

/-- The characters that are escaped by a letter. -/
def shortEscape? : Char → Option Char
  | '"' => some '"'
  | '\\' => some '\\'
  | '/' => some '/'
  | 'b' => some '\x08'
  | 'f' => some '\x0C'
  | 'n' => some '\n'
  | 'r' => some '\r'
  | 't' => some '\t'
  | _ => none

/-- One character of a string after its backslash. -/
def readEscape (start : List Char) : List Char → Reading (Char × List Char)
  | [] => faultAt .unterminatedString start
  | 'u' :: rest => readUnicodeEscape rest
  | c :: rest =>
    match shortEscape? c with
    | some escaped => .ok (escaped, rest)
    | none => faultAt .invalidEscape ('\\' :: c :: rest)

/-- The characters of a string up to its closing mark. The start is the text from the opening
mark on, and the bound counts characters. -/
def readChars (start : List Char) : Nat → List Char → Reading (List Char × List Char)
  | 0, _ | _, [] => faultAt .unterminatedString start
  | _ + 1, '"' :: rest => .ok ([], rest)
  | bound + 1, '\\' :: rest => do
    let (c, afterEscape) ← readEscape start rest
    let (tail, afterString) ← readChars start bound afterEscape
    return (c :: tail, afterString)
  | bound + 1, c :: rest =>
    if c.toNat < 0x20 then faultAt .controlCharacter (c :: rest)
    else do
      let (tail, afterString) ← readChars start bound rest
      return (c :: tail, afterString)

/-- A string after its opening mark. -/
def readString (rest : List Char) : Reading (String × List Char) := do
  let (chars, afterString) ← readChars ('"' :: rest) (rest.length + 1) rest
  return (String.ofList chars, afterString)

/-- The fraction of a number: a point and digits. -/
def takeFraction : List Char → List Char × List Char
  | '.' :: digit :: rest =>
    if digit.isDigit then
      (digit :: rest.takeWhile Char.isDigit, rest.dropWhile Char.isDigit)
    else ([], '.' :: digit :: rest)
  | text => ([], text)

/-- The exponent of a number: a letter, perhaps a sign, and digits. -/
def takeExponent (text : List Char) : Option Int × List Char :=
  match text with
  | mark :: rest =>
    if mark = 'e' ∨ mark = 'E' then
      let (negative, digits) := Numeral.takeSign rest
      let taken := digits.takeWhile Char.isDigit
      if taken.isEmpty then (none, text)
      else
        let value := Numeral.digitsValue taken
        (some (if negative then -(value : Int) else value), digits.dropWhile Char.isDigit)
    else (none, text)
  | [] => (none, text)

/-- The whole part of a number: a zero alone, or digits that do not start with zero. -/
def takeWhole : List Char → List Char × List Char
  | '0' :: rest => (['0'], rest)
  | text => (text.takeWhile Char.isDigit, text.dropWhile Char.isDigit)

/-- Integers have at most this many digits. -/
def digitLimit : Nat := 4300

/-- A number. A fraction or an exponent makes it binary. The start is the text from the sign
on. -/
def readNumber (start : List Char) : Reading (Json × List Char) :=
  let (negative, unsigned) := match start with
    | '-' :: rest => (true, rest)
    | _ => (false, start)
  let (whole, afterWhole) := takeWhole unsigned
  if whole.isEmpty then faultAt .expectedValue start
  else
    let (places, afterPlaces) := takeFraction afterWhole
    let (exponent, rest) := takeExponent afterPlaces
    if places.isEmpty && exponent.isNone then
      if digitLimit < whole.length then .error (.tooManyDigits whole.length)
      else
        let value : Int := Numeral.digitsValue whole
        .ok (.integer (if negative then -value else value), rest)
    else
      .ok (.number (.ofDecimal negative (Numeral.digitsValue (whole ++ places))
        (exponent.getD 0 - places.length)), rest)

/-- The words that stand for a value. -/
def keywords : List (String × Json) :=
  [("null", .null), ("true", .boolean true), ("false", .boolean false), ("NaN", .number .nan),
   ("Infinity", .number (.infinite false)), ("-Infinity", .number (.infinite true))]

/-- A word that stands for a value, and the text after it. -/
def takeKeyword? (text : List Char) : Option (Json × List Char) :=
  (keywords.find? fun keyword => keyword.1.toList.isPrefixOf text).map fun keyword =>
    (keyword.2, text.drop keyword.1.length)

mutual

/-- A value at the front of the text. The bound limits the calls that lead inward; `readText` takes it
from the length of the text. Values are read however deep they lie: no limit on recursion is
modelled. -/
def readValue : Nat → List Char → Reading (Json × List Char)
  | 0, text => faultAt .expectedValue text
  | bound + 1, text =>
    match text with
    | '"' :: rest => do
      let (value, afterString) ← readString rest
      return (.string value, afterString)
    | '[' :: rest =>
      match skipSpace rest with
      | ']' :: afterArray => .ok (.array [], afterArray)
      | inside => do
        let (elements, afterArray) ← readElements bound inside
        return (.array elements, afterArray)
    | '\x7b' :: rest =>
      match skipSpace rest with
      | '\x7d' :: afterObject => .ok (.object [], afterObject)
      | inside => do
        let (members, afterObject) ← readMembers bound inside
        return (.object (Entries.ofList members), afterObject)
    | _ =>
      match takeKeyword? text with
      | some found => .ok found
      | none => readNumber text

/-- The elements of an array up to its closing bracket. -/
def readElements : Nat → List Char → Reading (List Json × List Char)
  | 0, text => faultAt .expectedValue text
  | bound + 1, text => do
    let (element, afterElement) ← readValue bound text
    match skipSpace afterElement with
    | ']' :: afterArray => return ([element], afterArray)
    | ',' :: rest =>
      let (elements, afterArray) ← readElements bound (skipSpace rest)
      return (element :: elements, afterArray)
    | other => faultAt .expectedComma other

/-- The members of an object up to its closing brace. -/
def readMembers : Nat → List Char → Reading (List (String × Json) × List Char)
  | 0, text => faultAt .expectedName text
  | bound + 1, text =>
    match text with
    | '"' :: rest => do
      let (name, afterName) ← readString rest
      match skipSpace afterName with
      | ':' :: afterColon =>
        let (value, afterValue) ← readValue bound (skipSpace afterColon)
        match skipSpace afterValue with
        | '\x7d' :: afterObject => return ([(name, value)], afterObject)
        | ',' :: next =>
          let (members, afterObject) ← readMembers bound (skipSpace next)
          return ((name, value) :: members, afterObject)
        | other => faultAt .expectedComma other
      | other => faultAt .expectedColon other
    | _ => faultAt .expectedName text

end

/-- A text that holds one value, with blanks around it. Two calls at most lead past one
character. -/
def readText (text : List Char) : Reading Json :=
  match text with
  | '\uFEFF' :: _ => .error (.fault .byteOrderMark text)
  | _ => do
    let start := skipSpace text
    let (value, rest) ← readValue (2 * start.length + 2) start
    match skipSpace rest with
    | [] => return value
    | extra => throw (.fault .extraData extra)

/-- A place in a text by line, column and number of characters before it. -/
structure Position where
  line : Nat
  column : Nat
  offset : Nat
  deriving DecidableEq, Repr

/-- The place after the characters read so far. Lines and columns count from one. -/
def Position.after (before : List Char) : Position where
  line := before.count '\n' + 1
  column := (before.reverse.takeWhile (· ≠ '\n')).length + 1
  offset := before.length

/-- A place as it is shown. -/
def Position.description (position : Position) : String :=
  "line " ++ toString position.line ++ " column " ++ toString position.column ++ " (char " ++
    toString position.offset ++ ")"

/-- A text is read as one value, or the place of its first fault is found. -/
def read (text : List Char) : Except (Obstacle Position) Json :=
  match readText text with
  | .ok value => .ok value
  | .error (.fault cause rest) =>
    .error (.fault cause (.after (text.take (text.length - rest.length))))
  | .error (.tooManyDigits count) => .error (.tooManyDigits count)

/-- The message about a text that was not read. -/
def Obstacle.message : Obstacle Position → String
  | fault cause position => cause.words ++ ": " ++ position.description
  | tooManyDigits count =>
    "Exceeds the limit (" ++ toString digitLimit ++
      " digits) for integer string conversion: value has " ++ toString count ++
      " digits; use sys.set_int_max_str_digits() to increase the limit"

end CrossRef.Json
