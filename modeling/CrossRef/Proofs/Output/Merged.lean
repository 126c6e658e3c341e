import CrossRef.Output.Html
import CrossRef.Proofs.Output.Elements

/-!
Output in which every text is as long as it can be: no text is empty, and no two texts are
neighbours. Written as HTML, output looks the same before and after.
-/

namespace CrossRef.Node

/-- The text that nodes begin with. -/
def leadingText : List Node → String
  | .text content :: _ => content
  | _ => ""

/-- What follows the text that nodes begin with. -/
def behindText : List Node → List Node
  | .text _ :: rest => rest
  | nodes => nodes

@[simp] theorem leadingText_text (content : String) (rest : List Node) :
    leadingText (.text content :: rest) = content := rfl

@[simp] theorem behindText_text (content : String) (rest : List Node) :
    behindText (.text content :: rest) = rest := rfl

/-- A text before nodes is one with the text that they begin with, and an empty text is left
out. -/
def joinText (text : String) (nodes : List Node) : List Node :=
  if text = "" then nodes else .text (text ++ leadingText nodes) :: behindText nodes

mutual

/-- A node before others, which are merged already. -/
def before : Node → List Node → List Node
  | .text content, behind => joinText content behind
  | .element tag attributes children, behind =>
    .element tag attributes (merged children) :: behind

/-- Nodes at every depth without empty texts, and with neighbouring texts as one. -/
def merged : List Node → List Node
  | [] => []
  | node :: rest => node.before (merged rest)

end

/-- An empty text leaves no trace. -/
@[simp] theorem joinText_empty (nodes : List Node) : joinText "" nodes = nodes := if_pos rfl

/-- Two texts one after the other are joined as one. -/
theorem joinText_append (first second : String) (nodes : List Node) :
    joinText (first ++ second) nodes = joinText first (joinText second nodes) := by
  by_cases empty : second = ""
  · simp [empty]
  · by_cases alone : first = ""
    · simp [alone]
    · simp [joinText, empty, alone, String.append_assoc]

/-- A joined text brings no element with it. -/
theorem headsOfList_joinText (text : String) (nodes : List Node) :
    headsOfList (joinText text nodes) = headsOfList nodes := by
  by_cases empty : text = ""
  · rw [empty, joinText_empty]
  · rw [joinText, if_neg empty, headsOfList, heads, List.nil_append]
    unfold behindText
    split
    · rw [headsOfList, heads, List.nil_append]
    · rfl

mutual

/-- A node put before others keeps its elements and theirs. -/
theorem headsOfList_before (node : Node) (behind : List Node) :
    headsOfList (node.before behind) = node.heads ++ headsOfList behind := by
  cases node with
  | text content => rw [before, headsOfList_joinText, heads, List.nil_append]
  | element tag attributes children =>
      rw [before, headsOfList, heads, heads, headsOfList_merged children]

/-- Merged output has the same elements. -/
theorem headsOfList_merged (nodes : List Node) :
    headsOfList (merged nodes) = headsOfList nodes := by
  cases nodes with
  | nil => rw [merged]
  | cons node rest =>
      rw [merged, headsOfList_before node, headsOfList_merged rest, headsOfList]

end

end CrossRef.Node

namespace CrossRef.Html

open Node

/-- A joined text is written before the nodes. -/
theorem renderAll_joinText (text : String) (nodes : List Node) :
    renderAll (joinText text nodes) = text.toList.flatMap escapeText ++ renderAll nodes := by
  by_cases empty : text = ""
  · simp [empty]
  · rw [joinText, if_neg empty, renderAll, render, String.toList_append, List.flatMap_append,
      List.append_assoc]
    congr 1
    unfold leadingText behindText
    split
    · rw [renderAll, render]
    · rfl

mutual

/-- A node put before others is written before them. -/
theorem renderAll_before (node : Node) (behind : List Node) :
    renderAll (node.before behind) = render node ++ renderAll behind := by
  cases node with
  | text content => rw [before, renderAll_joinText, render]
  | element tag attributes children =>
      rw [before, renderAll, render, render, renderAll_merged children]

/-- Merged output is written as before. -/
theorem renderAll_merged (nodes : List Node) :
    renderAll (merged nodes) = renderAll nodes := by
  cases nodes with
  | nil => rw [merged]
  | cons node rest =>
      rw [merged, renderAll_before node, renderAll_merged rest, renderAll]

end

end CrossRef.Html
