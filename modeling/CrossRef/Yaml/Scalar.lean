import CrossRef.Yaml.Implicit

/-!
Scalars of YAML: the style in which a text is written so that it is read back as the same text.
-/

namespace CrossRef.Yaml

/-- The styles of a scalar. -/
inductive ScalarStyle
  | plain
  | singleQuoted
  | doubleQuoted
  deriving DecidableEq, Repr

/-- Characters that end a line. -/
def isBreak (c : Char) : Bool :=
  c == '\n' || c == '\x85' || c == '\u2028' || c == '\u2029'

/-- Characters that separate a sign from what stands next to it. -/
def isSeparator (c : Char) : Bool :=
  c == '\x00' || c == ' ' || c == '\t' || c == '\r' || isBreak c

/-- Characters that can stand in text outside double quotation marks. -/
def isOrdinary (c : Char) : Bool :=
  let point := c.toNat
  c == '\n' || (0x20 ≤ point && point ≤ 0x7E) ||
    ((point == 0x85 || (0xA0 ≤ point && point ≤ 0xD7FF) || (0xE000 ≤ point && point ≤ 0xFFFD) ||
      (0x10000 ≤ point && point < 0x10FFFF)) && point != 0xFEFF)

/-- Two neighbours of the text satisfy a relation. -/
def hasNeighbours (related : Char → Char → Bool) (text : List Char) : Bool :=
  (text.zip (text.drop 1)).any fun pair => related pair.1 pair.2

/-- The text holds an end of a line. -/
def isMultiline (text : List Char) : Bool :=
  text.any isBreak

/-- The text starts with a sign that opens something else than a plain scalar. -/
def startsWithIndicator : List Char → Bool
  | [] => false
  | first :: rest =>
    "#,[]\x7b\x7d&*!|>'\"%@`".toList.contains first ||
      ("?:-".toList.contains first && (rest.head?.all isSeparator))

/-- The text holds a sign that would end a plain scalar: a colon at the end of a word, or a
number sign at the start of one. -/
def holdsIndicator (text : List Char) : Bool :=
  hasNeighbours (fun left right => left == ':' && isSeparator right) text ||
    text.getLast? == some ':' ||
    hasNeighbours (fun left right => isSeparator left && right == '#') text

/-- The text starts like the mark between documents. -/
def startsLikeMark (text : List Char) : Bool :=
  "---".toList.isPrefixOf text || "...".toList.isPrefixOf text

/-- The text can be written plain, as far as its characters go. -/
def allowsPlain (text : List Char) : Bool :=
  let atEdge (c : Char) := c == ' ' || isBreak c
  text.all isOrdinary && !isMultiline text && !(text.head?.any atEdge) &&
    !(text.getLast?.any atEdge) && !startsLikeMark text && !startsWithIndicator text &&
    !holdsIndicator text

/-- The text can be written between single quotation marks: no line of it starts or ends in a
space, the first and the last apart. -/
def allowsSingleQuotes (text : List Char) : Bool :=
  text.all isOrdinary && !hasNeighbours (fun left right => isBreak left && right == ' ') text &&
    !hasNeighbours (fun left right => left == ' ' && isBreak right) text

/-- The plainest style that fits. A key stays on one line. -/
def scalarStyle (text : List Char) (isKey : Bool) : ScalarStyle :=
  if allowsPlain text && !hasOtherMeaning text then .plain
  else if allowsSingleQuotes text && !(isKey && isMultiline text) then .singleQuoted
  else .doubleQuoted

end CrossRef.Yaml
