import CrossRef.Content.Style
import CrossRef.Output.Node
import CrossRef.Text.Script

/-!
Inline content: runs of text and styled spans that nest.
-/

namespace CrossRef

/-- A piece of inline content. -/
inductive Inline
  | run (text : String)
  | span (style : Style) (content : List Inline)
  deriving Inhabited

namespace Inline

mutual

/-- The text of a piece without its styles. -/
def text : Inline → String
  | run text => text
  | span _ content => textOfList content

/-- The texts of several pieces in a row. -/
def textOfList : List Inline → String
  | [] => ""
  | piece :: rest => piece.text ++ textOfList rest

end

mutual

/-- A piece is blank when it holds no text but white space. -/
def isBlank : Inline → Bool
  | run text => Text.isAllBlank text.toList
  | span _ content => areBlank content

/-- All of several pieces are blank. -/
def areBlank : List Inline → Bool
  | [] => true
  | piece :: rest => piece.isBlank && areBlank rest

end

mutual

/-- A run becomes a text, and a span an element around its content. -/
def toNode (presentation : Presentation) : Inline → Node
  | run text => .text text
  | span style content =>
    .element "span" (style.attributes presentation) (toNodes presentation content)

/-- Every piece becomes one node. -/
def toNodes (presentation : Presentation) : List Inline → List Node
  | [] => []
  | piece :: rest => piece.toNode presentation :: toNodes presentation rest

end

/-- An empty run adds nothing to the output. -/
def isEmptyRun : Inline → Bool
  | run text => text.isEmpty
  | span .. => false

/-- White space is collapsed in a run; a span is left as it is. -/
def collapsed : Inline → Inline
  | run text => run (String.ofList (Text.collapse text.toList))
  | span style content => span style content

end Inline

/-- Whether a character at the edge of content asks for a space next to it. -/
inductive EdgeKind
  | letter
  | cjk
  deriving DecidableEq, Repr, Inhabited

/-- The name of an edge kind. -/
def EdgeKind.name : EdgeKind → String
  | letter => "letter"
  | cjk => "cjk"

/-- Ideographs, kana, hangul and their punctuation take no space next to each other. -/
def EdgeKind.ofChar (c : Char) : EdgeKind :=
  if Text.isUnspaced c then cjk else letter

/-- The kind of the first character of a text; a text without characters counts as a letter. -/
def EdgeKind.ofText (text : List Char) : EdgeKind :=
  (text.head?.map ofChar).getD letter

/-- The kinds of the first and the last character of content. -/
structure Edges where
  first : EdgeKind := .letter
  last : EdgeKind := .letter
  deriving DecidableEq, Repr

/-- The edges of a text, white space aside. -/
def Edges.ofText (text : List Char) : Edges :=
  let visible := Text.trim text
  ⟨.ofText visible, .ofText visible.reverse⟩

/-- Inline content in order. -/
structure Paragraph where
  content : List Inline := []
  deriving Inhabited

namespace Paragraph

/-- A paragraph with one run of text. -/
def ofText (text : String) : Paragraph :=
  ⟨[.run text]⟩

/-- Content is added at the end. -/
def append (paragraph : Paragraph) (content : List Inline) : Paragraph :=
  ⟨paragraph.content ++ content⟩

/-- The text of the paragraph without styles. -/
def text (paragraph : Paragraph) : String :=
  Inline.textOfList paragraph.content

/-- A paragraph is blank when it holds no text but white space. -/
def isBlank (paragraph : Paragraph) : Bool :=
  Inline.areBlank paragraph.content

/-- White space is collapsed in the runs of the paragraph itself. -/
def normalised (paragraph : Paragraph) : Paragraph :=
  ⟨paragraph.content.map Inline.collapsed⟩

/-- The edges of the text of the paragraph. -/
def edges (paragraph : Paragraph) : Edges :=
  .ofText paragraph.text.toList

/-- The output for the content, without an element around it. Empty runs of the paragraph itself
are left out. -/
def toNodes (presentation : Presentation) (paragraph : Paragraph) : List Node :=
  Inline.toNodes presentation (paragraph.content.filter (!·.isEmptyRun))

/-- Content is added at the end of the span at an index, if there is a span. -/
def appendToSpan? (paragraph : Paragraph) (index : Nat) (content : List Inline) :
    Option Paragraph :=
  match paragraph.content[index]? with
  | some (.span style inner) =>
    some ⟨paragraph.content.set index (.span style (inner ++ content))⟩
  | _ => none

/-- The span at an index. -/
def span? (paragraph : Paragraph) (index : Nat) : Option Inline :=
  match paragraph.content[index]? with
  | some (.span style inner) => some (.span style inner)
  | _ => none

end Paragraph

end CrossRef
