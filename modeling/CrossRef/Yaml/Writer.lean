import CrossRef.Json.Basic
import CrossRef.Number.Format
import CrossRef.Text.Hex
import CrossRef.Yaml.Scalar

/-!
Writing data as YAML: mappings and sequences in blocks, empty ones in brackets, and long scalars
folded at spaces.
-/

namespace CrossRef.Yaml

/-- Lines are folded behind this column. -/
def lineWidth : Nat := 80

/-- Numbers have a point before the exponent, so that they are read back as numbers. -/
def notation64 : Notation64 := ⟨".nan", ".inf", true⟩

/-- What is known about the page: the characters written, the last first, the column, whether a
space or the start of the line comes before, and whether only indentation and signs of the layout
stand on the line. -/
structure Page where
  written : List Char := []
  column : Nat := 0
  afterSpace : Bool := true
  inIndentation : Bool := true

namespace Page

/-- Characters of a scalar. -/
def put (page : Page) (text : List Char) : Page :=
  { page with written := text.reverse ++ page.written, column := page.column + text.length }

/-- An end of a line. -/
def breakWith (page : Page) (c : Char) : Page :=
  { written := c :: page.written, column := 0, afterSpace := true, inIndentation := true }

/-- A new line. -/
def breakLine (page : Page) : Page :=
  page.breakWith '\n'

/-- The indentation of a level, on a new line unless this one has only the indentation of a level
outside. -/
def indent (page : Page) (level : Nat) : Page :=
  let fresh :=
    if !page.inIndentation || level < page.column || (page.column == level && !page.afterSpace) then
      page.breakLine
    else page
  if fresh.column < level then
    { fresh.put (List.replicate (level - fresh.column) ' ') with afterSpace := true }
  else fresh

/-- A sign of the layout, after a space where it needs one. -/
def sign (page : Page) (text : String) (needsSpace : Bool) (keepsIndentation : Bool) : Page :=
  let spaced := if page.afterSpace || !needsSpace then text.toList else ' ' :: text.toList
  { page.put spaced with
    afterSpace := false
    inIndentation := page.inIndentation && keepsIndentation }

end Page

/-- The text falls into runs of characters of the same kind. -/
def runs (text : List Char) : List (List Char) :=
  text.splitBy fun left right =>
    (left == ' ' && right == ' ') || (isBreak left && isBreak right) ||
      (left != ' ' && right != ' ' && !isBreak left && !isBreak right)

/-- A plain scalar is folded at single spaces. -/
def writePlain (text : List Char) (level : Nat) (folds : Bool) (page : Page) : Page :=
  let started := if page.afterSpace then page else page.put [' ']
  (runs text).foldl
    (fun page run =>
      if run = [' '] && folds && lineWidth < page.column then
        { page.indent level with afterSpace := false, inIndentation := false }
      else page.put run)
    { started with afterSpace := false, inIndentation := false }

/-- The runs between the first and the last, where a scalar in quotation marks may be folded. -/
def writeSingleRuns (level : Nat) (folds : Bool) : Bool → List (List Char) → Page → Page
  | _, [], page => page
  | isFirst, run :: rest, page =>
    let next :=
      if run.head?.any isBreak then
        let spaced := if run.head? = some '\n' then page.breakLine else page
        (run.foldl Page.breakWith spaced).indent level
      else if run = [' '] && folds && lineWidth < page.column && !isFirst && !rest.isEmpty then
        page.indent level
      else page.put (run.flatMap fun c => if c == '\'' then ['\'', '\''] else [c])
    writeSingleRuns level folds false rest next

/-- A scalar between single quotation marks, which are doubled inside. An end of a line is written
once more than it stands there. -/
def writeSingleQuoted (text : List Char) (level : Nat) (folds : Bool) (page : Page) : Page :=
  (writeSingleRuns level folds true (runs text) (page.sign "'" true false)).sign "'" false false

/-- The escapes that have a letter. -/
def escapeLetter? : Char → Option Char
  | '\x00' => some '0'
  | '\x07' => some 'a'
  | '\x08' => some 'b'
  | '\t' => some 't'
  | '\n' => some 'n'
  | '\x0B' => some 'v'
  | '\x0C' => some 'f'
  | '\r' => some 'r'
  | '\x1B' => some 'e'
  | '"' => some '"'
  | '\\' => some '\\'
  | '\x85' => some 'N'
  | '\u2028' => some 'L'
  | '\u2029' => some 'P'
  | _ => none

/-- The characters that are escaped between double quotation marks: all but printable ASCII and the
rest of the basic plane. -/
def isEscaped (c : Char) : Bool :=
  let point := c.toNat
  c == '"' || c == '\\' || c == '\u2028' || c == '\u2029' || point == 0xFEFF ||
    !((0x20 ≤ point && point ≤ 0x7E) || (0xA0 ≤ point && point ≤ 0xD7FF) ||
      (0xE000 ≤ point && point ≤ 0xFFFD))

/-- An escape by letter or by number. -/
def escape (c : Char) : List Char :=
  match escapeLetter? c with
  | some letter => ['\\', letter]
  | none =>
    if c.toNat ≤ 0xFF then '\\' :: 'x' :: Text.upperHex 2 c.toNat
    else if c.toNat ≤ 0xFFFF then '\\' :: 'u' :: Text.upperHex 4 c.toNat
    else '\\' :: 'U' :: Text.upperHex 8 c.toNat

/-- The characters of a scalar between double quotation marks. Those that are not written yet come
in reverse. A line is folded at a space, or between escapes; a backslash ends it, and another one
keeps a space at the start of the next. -/
def writeDoubleFrom (level : Nat) (folds : Bool) : Bool → List Char → List Char → Page → Page
  | _, waiting, [], page => page.put waiting.reverse
  | isFirst, waiting, c :: rest, page =>
    let escaped := isEscaped c
    let flushed := if escaped then (page.put waiting.reverse).put (escape c) else page
    let unwritten := if escaped then [] else waiting
    let reached := flushed.column + unwritten.length
    let overfull := if escaped then lineWidth + 1 < reached else lineWidth < reached
    if folds && !isFirst && !rest.isEmpty && (c == ' ' || unwritten.isEmpty) && overfull then
      let folded :=
        { ((flushed.put unwritten.reverse).put ['\\']).indent level with
          afterSpace := false
          inIndentation := false }
      let startsWithSpace := if escaped then rest.head? == some ' ' else c == ' '
      let next := if startsWithSpace then folded.put ['\\'] else folded
      writeDoubleFrom level folds false (if escaped then [] else [c]) rest next
    else writeDoubleFrom level folds false (if escaped then [] else c :: unwritten) rest flushed

/-- A scalar between double quotation marks. -/
def writeDoubleQuoted (text : List Char) (level : Nat) (folds : Bool) (page : Page) : Page :=
  (writeDoubleFrom level folds true [] text (page.sign "\"" true false)).sign "\"" false false

/-- A text in its style. A key is not folded. -/
def writeText (text : List Char) (level : Nat) (isKey : Bool) (page : Page) : Page :=
  match scalarStyle text isKey with
  | .plain => writePlain text level (!isKey) page
  | .singleQuoted => writeSingleQuoted text level (!isKey) page
  | .doubleQuoted => writeDoubleQuoted text level (!isKey) page

/-- A key stands before its colon when it is short, not empty, and on one line. -/
def isSimpleKey (name : List Char) : Bool :=
  !name.isEmpty && name.length < 123 && !isMultiline name

/-- The level inside a collection; at the top there is no level yet. -/
def innerLevel (level : Option Nat) : Nat :=
  match level with
  | none => 0
  | some level => level + 2

/-- The level of the further lines of a scalar. -/
def scalarLevel (level : Option Nat) : Nat :=
  level.getD 0 + 2

mutual

/-- A datum at a level. A sequence that is the value of a key is not indented below the key. -/
def writeValue (level : Option Nat) (isMember : Bool) : Json → Page → Page
  | .null, page => writePlain "null".toList (scalarLevel level) true page
  | .boolean value, page =>
    writePlain (if value then "true" else "false").toList (scalarLevel level) true page
  | .integer value, page => writePlain (toString value).toList (scalarLevel level) true page
  | .number value, page =>
    writePlain (value.textIn notation64).toList (scalarLevel level) true page
  | .string value, page => writeText value.toList (scalarLevel level) false page
  | .array [], page => (page.sign "[" true false).sign "]" false false
  | .array (element :: rest), page =>
    let inner := match level with
      | some outer => if isMember && !page.inIndentation then outer else innerLevel level
      | none => 0
    writeElements inner rest
      (writeValue (some inner) false element ((page.indent inner).sign "-" true true))
  | .object [], page => (page.sign "\x7b" true false).sign "\x7d" false false
  | .object (member :: rest), page =>
    let inner := innerLevel level
    writeMembers inner rest (writeMember inner member page)

/-- The elements after the first one. -/
def writeElements (level : Nat) : List Json → Page → Page
  | [], page => page
  | element :: rest, page =>
    writeElements level rest
      (writeValue (some level) false element ((page.indent level).sign "-" true true))

/-- A member: the key and the value, each after its sign when the key is not simple. -/
def writeMember (level : Nat) : String × Json → Page → Page
  | (name, value), page =>
    if isSimpleKey name.toList then
      writeValue (some level) true value
        ((writeText name.toList (level + 2) true (page.indent level)).sign ":" false false)
    else
      let keyed :=
        writeText name.toList (level + 2) false ((page.indent level).sign "?" true true)
      writeValue (some level) true value ((keyed.indent level).sign ":" true true)

/-- The members after the first one. -/
def writeMembers (level : Nat) : List (String × Json) → Page → Page
  | [], page => page
  | member :: rest, page => writeMembers level rest (writeMember level member page)

end

/-- A datum is written plain: the reader cannot tell yet that the document ends behind it. -/
def isOpenEnded : Json → Bool
  | .null | .boolean _ | .integer _ | .number _ => true
  | .string value => scalarStyle value.toList false == .plain
  | .array _ | .object _ => false

/-- A document with one datum; a plain scalar alone is followed by the mark of its end. -/
def write (value : Json) : String :=
  let page := (writeValue none false value {}).breakLine
  String.ofList page.written.reverse ++ if isOpenEnded value then "...\n" else ""

end CrossRef.Yaml
