import CrossRef.Json.Basic
import CrossRef.Number.Format
import CrossRef.Text.Hex

/-!
Writing JSON text: one element or member on each line, with a fixed indentation. Characters beyond
ASCII stand for themselves.
-/

namespace CrossRef.Json

/-- Numbers that are not finite are written as words. -/
def notation64 : Notation64 := ⟨"NaN", "Infinity", false⟩

/-- Quotation marks, backslashes and controls are escaped. -/
def escapeChar (c : Char) : List Char :=
  if c == '"' then ['\\', '"']
  else if c == '\\' then ['\\', '\\']
  else if c == '\n' then ['\\', 'n']
  else if c == '\r' then ['\\', 'r']
  else if c == '\t' then ['\\', 't']
  else if c == '\x0C' then ['\\', 'f']
  else if c == '\x08' then ['\\', 'b']
  else if c.toNat < 0x20 then '\\' :: 'u' :: Text.lowerHex 4 c.toNat
  else [c]

/-- A string between its marks. -/
def writeString (value : String) : List Char :=
  '"' :: value.toList.flatMap escapeChar ++ ['"']

/-- A new line with the indentation of a level. -/
def newLine (indent level : Nat) : List Char :=
  '\n' :: List.replicate (indent * level) ' '

mutual

/-- A value at a level of nesting. -/
def writeAt (indent level : Nat) : Json → List Char
  | null => "null".toList
  | boolean value => if value then "true".toList else "false".toList
  | integer value => (toString value).toList
  | number value => (value.textIn notation64).toList
  | string value => writeString value
  | array [] => ['[', ']']
  | array (element :: rest) =>
    '[' :: newLine indent (level + 1) ++ writeAt indent (level + 1) element ++
      writeElements indent (level + 1) rest ++ newLine indent level ++ [']']
  | object [] => ['\x7b', '\x7d']
  | object ((name, value) :: rest) =>
    '\x7b' :: newLine indent (level + 1) ++ writeString name ++ [':', ' '] ++
      writeAt indent (level + 1) value ++ writeMembers indent (level + 1) rest ++
      newLine indent level ++ ['\x7d']

/-- The elements after the first one, each after a comma. -/
def writeElements (indent level : Nat) : List Json → List Char
  | [] => []
  | element :: rest =>
    ',' :: newLine indent level ++ writeAt indent level element ++ writeElements indent level rest

/-- The members after the first one, each after a comma. -/
def writeMembers (indent level : Nat) : List (String × Json) → List Char
  | [] => []
  | (name, value) :: rest =>
    ',' :: newLine indent level ++ writeString name ++ [':', ' '] ++ writeAt indent level value ++
      writeMembers indent level rest

end

/-- The text of a value. -/
def write (indent : Nat) (value : Json) : String :=
  String.ofList (writeAt indent 0 value)

end CrossRef.Json
