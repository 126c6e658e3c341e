import CrossRef.Output.Node

/-!
The output tree as HTML.
-/

namespace CrossRef.Html

/-- The characters that could open markup inside a text. -/
def escapeText : Char → List Char
  | '&' => "&amp;".toList
  | '<' => "&lt;".toList
  | '>' => "&gt;".toList
  | c => [c]

/-- Attribute values also keep both quotation marks apart from the marks that close them. -/
def escapeValue : Char → List Char
  | '"' => "&quot;".toList
  | '\'' => "&#x27;".toList
  | c => escapeText c

/-- An attribute follows a space, its value between double marks. -/
def attributeText (entry : String × String) : List Char :=
  ' ' :: entry.1.toList ++ ['=', '"'] ++ entry.2.toList.flatMap escapeValue ++ ['"']

/-- The opening tag of an element. -/
def openTag (tag : String) (attributes : Attributes) : List Char :=
  '<' :: tag.toList ++ attributes.flatMap attributeText ++ ['>']

/-- The closing tag of an element. -/
def closeTag (tag : String) : List Char :=
  '<' :: '/' :: tag.toList ++ ['>']

mutual

/-- The HTML of one node: an element always has both tags. -/
def render : Node → List Char
  | .text content => content.toList.flatMap escapeText
  | .element tag attributes children =>
    openTag tag attributes ++ renderAll children ++ closeTag tag

/-- Nodes follow one another without anything between them. -/
def renderAll : List Node → List Char
  | [] => []
  | node :: rest => render node ++ renderAll rest

end

end CrossRef.Html

namespace CrossRef

/-- The HTML of a node. -/
def Node.html (node : Node) : String :=
  String.ofList (Html.render node)

/-- The HTML of a list of nodes. -/
def Node.htmlOfList (nodes : List Node) : String :=
  String.ofList (Html.renderAll nodes)

end CrossRef
