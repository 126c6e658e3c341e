import CrossRef.Terminal.Colour
import CrossRef.Text.Blank

/-!
Style names: a style is described by words, and descriptions of one style have one normal form.
-/

namespace CrossRef.Markup

/-- The attributes in the order of the normal form, each with its short names. -/
def attributes : List (String × List String) :=
  [("bold", ["b"]), ("dim", ["d"]), ("italic", ["i"]), ("underline", ["u"]), ("blink", []),
   ("blink2", []), ("reverse", ["r"]), ("conceal", ["c"]), ("strike", ["s"]),
   ("underline2", ["uu"]), ("frame", []), ("encircle", []), ("overline", ["o"])]

/-- The attribute that a word stands for. -/
def attribute? (word : String) : Option String :=
  (attributes.find? fun names => names.1 = word || names.2.contains word).map Prod.fst

/-- What a description says: attributes that are set or taken away, the colours of text and
background, and the address of a link. -/
structure Description where
  attributes : List (String × Bool) := []
  colour : Option String := none
  background : Option String := none
  link : Option String := none

/-- What the word before asks for. -/
inductive Awaited
  | anything
  | background
  | attribute
  | address
  deriving DecidableEq, Repr

/-- ASCII letters in lower case. -/
def lower (word : List Char) : List Char :=
  word.map Char.toLower

namespace Description

/-- A description with one attribute more; the last word on an attribute counts. -/
def give (description : Description) (name : String) (value : Bool) : Description :=
  { description with attributes := (name, value) :: description.attributes }

/-- One word after a word that needs it, or a word of its own. -/
def readWord? (description : Description) : Awaited → List Char → Option (Description × Awaited)
  | .background, word =>
    if isColour (lower word) then
      some ({ description with background := some (String.ofList (lower word)) }, .anything)
    else none
  | .attribute, word =>
    (attribute? (String.ofList word)).map fun known => (description.give known false, .anything)
  | .address, word => some ({ description with link := some (String.ofList word) }, .anything)
  | .anything, word =>
    match String.ofList (lower word) with
    | "on" => some (description, .background)
    | "not" => some (description, .attribute)
    | "link" => some (description, .address)
    | plain =>
      match attribute? plain with
      | some known => some (description.give known true, .anything)
      | none =>
        if isColour plain.toList then some ({ description with colour := some plain }, .anything)
        else none

/-- The words are read in order, and none may be missing at the end. -/
def read? : Description → Awaited → List (List Char) → Option Description
  | description, awaited, [] => if awaited = .anything then some description else none
  | description, awaited, word :: rest =>
    (description.readWord? awaited word).bind fun next => read? next.1 next.2 rest

/-- The words of the normal form. -/
def words (description : Description) : List String :=
  (Markup.attributes.filterMap fun names =>
      (description.attributes.lookup names.1).map fun set =>
        if set then names.1 else "not " ++ names.1) ++
    description.colour.toList ++
    (description.background.map ("on " ++ ·)).toList ++
    (description.link.map ("link " ++ ·)).toList

end Description

/-- The normal form of a name. What describes no style is only trimmed and put in lower case. -/
def normalName (name : List Char) : String :=
  let words := Text.words name
  if words.isEmpty || words = ["none".toList] then String.ofList (lower (Text.trim name))
  else
    match Description.read? {} .anything words with
    | some description => " ".intercalate description.words
    | none => String.ofList (lower (Text.trim name))

end CrossRef.Markup
