import CrossRef.Proofs.Output.Elements

/-!
Outlines: what is left of output and of content when only texts and spans are looked at. Content
and the nodes that it is written as have one outline, so no text and no span is lost, doubled or
moved on the way.
-/

namespace CrossRef

/-- A text or a span, with the attributes that the span is written with. -/
inductive Outline
  | text (content : String)
  | span (attributes : Attributes) (inner : List Outline)

namespace Outline

mutual

/-- The texts of an outline in a row. -/
def plainText : Outline → String
  | text content => content
  | span _ inner => plainTextOfList inner

/-- The texts of several outlines in a row. -/
def plainTextOfList : List Outline → String
  | [] => ""
  | first :: rest => first.plainText ++ plainTextOfList rest

end

/-- The texts of joined lists are the texts of the one and then those of the other. -/
theorem plainTextOfList_append (first second : List Outline) :
    plainTextOfList (first ++ second) = plainTextOfList first ++ plainTextOfList second := by
  induction first with
  | nil => exact (String.empty_append).symm
  | cons head tail ih =>
      rw [List.cons_append, plainTextOfList, plainTextOfList, ih, String.append_assoc]

/-- An empty text is left out. -/
def ofText (content : String) : List Outline :=
  if content.isEmpty then [] else [text content]

/-- Nothing is lost with an empty text. -/
@[simp] theorem plainTextOfList_ofText (content : String) :
    plainTextOfList (ofText content) = content := by
  by_cases empty : content.isEmpty
  · rw [ofText, if_pos empty]
    exact (String.isEmpty_iff.mp empty).symm
  · rw [ofText, if_neg empty]
    exact String.append_empty

end Outline

namespace Node

mutual

/-- The texts of a node in a row. -/
def plainText : Node → String
  | .text content => content
  | .element _ _ children => plainTextOfList children

/-- The texts of several nodes in a row. -/
def plainTextOfList : List Node → String
  | [] => ""
  | node :: rest => node.plainText ++ plainTextOfList rest

end

mutual

/-- The outline of a node: an element that is no span is only looked through. -/
def outline : Node → List Outline
  | .text content => Outline.ofText content
  | .element tag attributes children =>
    if tag = "span" then [.span attributes (outlineOfList children)] else outlineOfList children

/-- The outlines of several nodes in a row. -/
def outlineOfList : List Node → List Outline
  | [] => []
  | node :: rest => node.outline ++ outlineOfList rest

end

mutual

/-- The outline of a node holds its texts. -/
theorem plainTextOfList_outline (node : Node) :
    Outline.plainTextOfList node.outline = node.plainText := by
  cases node with
  | text content => exact Outline.plainTextOfList_ofText content
  | element tag attributes children =>
      rw [outline, plainText, ← plainTextOfList_outlineOfList children]
      split
      · exact String.append_empty
      · rfl

/-- The outlines of several nodes hold their texts. -/
theorem plainTextOfList_outlineOfList (nodes : List Node) :
    Outline.plainTextOfList (outlineOfList nodes) = plainTextOfList nodes := by
  cases nodes with
  | nil => rfl
  | cons node rest =>
      rw [outlineOfList, plainTextOfList, Outline.plainTextOfList_append,
        plainTextOfList_outline node, plainTextOfList_outlineOfList rest]

end

end Node

namespace Inline

mutual

/-- The outline of a piece of content. -/
def outline (presentation : Presentation) : Inline → List Outline
  | run text => Outline.ofText text
  | span style content =>
    [.span (style.attributes presentation) (outlineOfList presentation content)]

/-- The outlines of several pieces in a row. -/
def outlineOfList (presentation : Presentation) : List Inline → List Outline
  | [] => []
  | piece :: rest => piece.outline presentation ++ outlineOfList presentation rest

end

mutual

/-- The outline of a piece holds its text. -/
theorem plainTextOfList_outline (presentation : Presentation) (piece : Inline) :
    Outline.plainTextOfList (piece.outline presentation) = piece.text := by
  cases piece with
  | run text => exact Outline.plainTextOfList_ofText text
  | span style content =>
      rw [outline, Inline.text, ← plainTextOfList_outlineOfList presentation content]
      exact String.append_empty

/-- The outlines of several pieces hold their text. -/
theorem plainTextOfList_outlineOfList (presentation : Presentation) (content : List Inline) :
    Outline.plainTextOfList (outlineOfList presentation content) = textOfList content := by
  cases content with
  | nil => rfl
  | cons piece rest =>
      rw [outlineOfList, textOfList, Outline.plainTextOfList_append,
        plainTextOfList_outline presentation piece,
        plainTextOfList_outlineOfList presentation rest]

end

mutual

/-- A piece is written as a node of the same outline. -/
theorem outline_toNode (presentation : Presentation) (piece : Inline) :
    (piece.toNode presentation).outline = piece.outline presentation := by
  cases piece with
  | run text => rfl
  | span style content =>
      rw [toNode, Node.outline, if_pos rfl, outlineOfList_toNodes presentation content, outline]

/-- Several pieces are written as nodes of the same outline. -/
theorem outlineOfList_toNodes (presentation : Presentation) (content : List Inline) :
    Node.outlineOfList (toNodes presentation content) = outlineOfList presentation content := by
  cases content with
  | nil => rfl
  | cons piece rest =>
      rw [toNodes, Node.outlineOfList, outlineOfList, outline_toNode presentation piece,
        outlineOfList_toNodes presentation rest]

end

/-- An empty run has no outline. -/
theorem outline_of_isEmptyRun (presentation : Presentation) {piece : Inline}
    (empty : piece.isEmptyRun = true) : piece.outline presentation = [] := by
  cases piece with
  | run text => exact if_pos empty
  | span style content => exact absurd empty Bool.false_ne_true

/-- Leaving out empty runs does not change the outline. -/
theorem outlineOfList_filter (presentation : Presentation) (content : List Inline) :
    outlineOfList presentation (content.filter (!·.isEmptyRun)) =
      outlineOfList presentation content := by
  induction content with
  | nil => rfl
  | cons piece rest ih =>
      rw [List.filter_cons, outlineOfList, ← ih]
      cases empty : piece.isEmptyRun with
      | false => rfl
      | true =>
          rw [outline_of_isEmptyRun presentation empty]
          rfl

end Inline

/-- A paragraph is written as nodes with the outline of its content. -/
theorem Paragraph.outlineOfList_toNodes (presentation : Presentation) (paragraph : Paragraph) :
    Node.outlineOfList (paragraph.toNodes presentation) =
      Inline.outlineOfList presentation paragraph.content := by
  rw [toNodes, Inline.outlineOfList_toNodes, Inline.outlineOfList_filter]

end CrossRef
