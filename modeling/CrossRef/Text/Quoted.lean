import CrossRef.Text.Hex
import CrossRef.Text.Printable

/-!
Quoted text: how a text is shown inside a message. The quotation mark is single unless the text
itself holds single marks and no double ones.
-/

namespace CrossRef.Text

/-- The mark that surrounds a text. -/
def quotationMark (text : List Char) : Char :=
  if text.contains '\'' && !text.contains '"' then '"' else '\''

/-- A backslash and the mark in use are escaped, line and column controls have short escapes, and
other characters that do not print are written by number. -/
def quoteChar (mark c : Char) : List Char :=
  if c == mark || c == '\\' then ['\\', c]
  else if c == '\n' then ['\\', 'n']
  else if c == '\r' then ['\\', 'r']
  else if c == '\t' then ['\\', 't']
  else if isPrintable c then [c]
  else if c.toNat < 0x100 then '\\' :: 'x' :: lowerHex 2 c.toNat
  else if c.toNat < 0x10000 then '\\' :: 'u' :: lowerHex 4 c.toNat
  else '\\' :: 'U' :: lowerHex 8 c.toNat

/-- The text between quotation marks. -/
def quoted (text : String) : String :=
  let mark := quotationMark text.toList
  String.ofList (mark :: text.toList.flatMap (quoteChar mark) ++ [mark])

end CrossRef.Text
