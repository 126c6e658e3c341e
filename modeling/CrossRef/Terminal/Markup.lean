import CrossRef.Terminal.Console
import CrossRef.Terminal.Emoji

/-!
Messages with tags in brackets, for styles and for handlers. The tags vanish; a closing tag has to
close a tag that is open, and the parameters of a handler are read when it is closed. Codes between
colons become emoji.
-/

namespace CrossRef.Markup

/-- A tag has a name, and parameters after an equals sign. -/
structure Tag where
  name : List Char
  parameters : Option (List Char)
  deriving DecidableEq, Repr

/-- The tag as it is written. -/
def Tag.text (tag : Tag) : List Char :=
  '[' :: tag.name ++ (match tag.parameters with
    | some parameters => '=' :: parameters
    | none => []) ++ [']']

/-- A message falls into plain texts, and tags with their positions. -/
inductive Piece
  | plain (text : List Char)
  | tag (position : Nat) (tag : Tag)
  deriving DecidableEq, Repr

/-- The faults of a message. The reason why a style or a handler is refused is the console's. -/
inductive Fault
  | unmatched (tag : List Char) (position : Nat)
  | nothingOpen (position : Nat)
  | refused (reason : String)
  deriving DecidableEq, Repr

/-- The text of a fault. -/
def Fault.message : Fault → String
  | unmatched tag position =>
    "closing tag '" ++ String.ofList tag ++ "' at position " ++ toString position ++
      " doesn't match any open tag"
  | nothingOpen position =>
    "closing tag '[/]' at position " ++ toString position ++ " has nothing to close"
  | refused reason => reason

/-- The characters that a tag may start with. -/
def startsTag (c : Char) : Bool :=
  c.isLower || c == '#' || c == '/' || c == '@'

/-- The inside of a tag at the front of the text, and the text after it. -/
def takeTag? : List Char → Option (List Char × List Char)
  | '[' :: first :: rest =>
    if startsTag first then
      match rest.dropWhile fun c => c != ']' && c != '[' with
      | ']' :: afterTag => some (first :: rest.takeWhile fun c => c != ']' && c != '[', afterTag)
      | _ => none
    else none
  | _ => none

/-- The name of a tag ends at the first equals sign. -/
def Tag.ofInside (inside : List Char) : Tag :=
  let name := inside.takeWhile (· ≠ '=')
  ⟨name, if name.length < inside.length then some (inside.drop (name.length + 1)) else none⟩

/-- A plain text is kept unless it is empty; its characters come in reverse. -/
def plainPiece (reversed : List Char) : List Piece :=
  if reversed.isEmpty then [] else [.plain reversed.reverse]

/-- Backslashes before a tag stand for half as many; an odd one more makes the tag plain. The bound
counts characters, and the plain text read so far comes in reverse. -/
def piecesFrom : Nat → Nat → List Char → List Char → List Piece
  | 0, _, reversed, text => plainPiece (text.reverse ++ reversed)
  | _, _, reversed, [] => plainPiece reversed
  | bound + 1, position, reversed, c :: rest =>
    let slashes := (c :: rest).takeWhile (· = '\\')
    let afterSlashes := (c :: rest).dropWhile (· = '\\')
    match takeTag? afterSlashes with
    | some (inside, afterTag) =>
      let start := position + slashes.length / 2 * 2
      let next := position + slashes.length + inside.length + 2
      plainPiece reversed ++ plainPiece (List.replicate (slashes.length / 2) '\\') ++
        (if slashes.length % 2 = 1 then [.plain ('[' :: inside ++ [']'])]
          else [.tag start (.ofInside inside)]) ++
        piecesFrom bound next [] afterTag
    | none =>
      if slashes.isEmpty then piecesFrom bound (position + 1) (c :: reversed) rest
      else piecesFrom bound (position + slashes.length) (slashes ++ reversed) afterSlashes

/-- The pieces of a message. -/
def pieces (text : List Char) : List Piece :=
  piecesFrom (text.length + 1) 0 [] text

/-- A plain text without its escapes of single brackets. -/
def unescapeBrackets : List Char → List Char
  | '\\' :: '[' :: rest => '[' :: unescapeBrackets rest
  | c :: rest => c :: unescapeBrackets rest
  | [] => []

/-- The controls that a terminal would act on are left out. -/
def isDropped (c : Char) : Bool :=
  c == '\x07' || c == '\x08' || c == '\x0B' || c == '\x0C' || c == '\r'

/-- What is seen of a plain text. -/
def plainText (text : List Char) : List Char :=
  (Emoji.replaceCodes (unescapeBrackets text)).filter (!isDropped ·)

/-- A tag that is open, with the name that all descriptions of its style share. -/
structure OpenTag where
  name : String
  parameters : Option (List Char)
  deriving DecidableEq, Repr

/-- The parameters of a handler, if a tag has some. -/
def OpenTag.handlerParameters? (tag : OpenTag) : Option (List Char) :=
  if tag.name.toList.head? = some '@' then tag.parameters.filter (!·.isEmpty) else none

section Reading

variable (console : Console)

/-- A name that the console does not refuse. -/
def knownName (name : List Char) : Except Fault String :=
  (console.styleName name).mapError .refused

/-- The tags that stay open when one is closed. -/
def close (tag : OpenTag) (outer : List OpenTag) : Except Fault (List OpenTag) :=
  match tag.handlerParameters?.bind console.handlerFault? with
  | some reason => .error (.refused reason)
  | none => .ok outer

/-- The tags that are open behind a tag. One without a name closes the last opened; one with a name
closes the last opened of that name. -/
def turn (opened : List OpenTag) (position : Nat) (tag : Tag) : Except Fault (List OpenTag) :=
  match tag.name with
  | '/' :: closing =>
    if Text.isAllBlank closing then
      match opened with
      | [] => .error (.nothingOpen position)
      | last :: outer => close console last outer
    else do
      let name ← knownName console (Text.trim closing)
      match opened.find? (·.name = name) with
      | some last => close console last (opened.eraseP (·.name = name))
      | none => throw (.unmatched tag.text position)
  | opening => do
    let name ← knownName console opening
    return ⟨name, tag.parameters⟩ :: opened

/-- The text of pieces under the tags that are open, the last opened first. -/
def textOf : List OpenTag → List Piece → Except Fault (List Char)
  | _, [] => .ok []
  | opened, .plain text :: rest => (textOf opened rest).map (plainText text ++ ·)
  | opened, .tag position tag :: rest =>
    match turn console opened position tag with
    | .ok next => textOf next rest
    | .error fault => .error fault

/-- The width of a tabulator column. -/
def tabWidth : Nat := 8

/-- Tabulators move to the next column, which counts from the last tabulator or the start of the
line. -/
def expandTabs : List Char → List Char → List Char
  | _, [] => []
  | _, '\n' :: rest => '\n' :: expandTabs [] rest
  | part, '\t' :: rest =>
    List.replicate (tabWidth - console.columns part % tabWidth) ' ' ++ expandTabs [] rest
  | part, c :: rest => c :: expandTabs (part ++ [c]) rest

/-- The text of a message, without its tags. -/
def read (message : String) : Except Fault (List Char) :=
  (textOf console [] (pieces message.toList)).map (expandTabs console [])

/-- What a console shows for a message: its text, in lines that fit. -/
def shown (message : String) : Except Fault String :=
  (read console message).map fun text => String.ofList (console.laidOut text)

end Reading

end CrossRef.Markup
