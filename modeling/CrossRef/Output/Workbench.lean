import CrossRef.Output.Node

/-!
Elements under construction. An element may be adopted as a child before it is finished: what is
done to it later shows wherever it was adopted.
-/

namespace CrossRef

/-- A child is a finished node, or an element of the workbench by its number. -/
inductive Piece
  | finished (node : Node)
  | adopted (number : Nat)

/-- An element under construction. -/
structure Draft where
  tag : String
  attributes : Attributes
  pieces : List Piece

/-- The elements are numbered in the order in which they were laid down. -/
structure Workbench where
  drafts : List Draft

namespace Workbench

/-- An element without attributes and children stands in for a number that is not in use. -/
def draft (bench : Workbench) (number : Nat) : Draft :=
  bench.drafts.getD number ⟨"", [], []⟩

/-- A new element is laid down; a text alone is no element. -/
def lay (bench : Workbench) (node : Node) : Workbench :=
  match node with
  | .text _ => bench
  | .element tag attributes children =>
    ⟨bench.drafts ++ [⟨tag, attributes, children.map .finished⟩]⟩

/-- One element is changed. -/
def update (bench : Workbench) (number : Nat) (change : Draft → Draft) : Workbench :=
  ⟨bench.drafts.modify number change⟩

/-- An attribute of one element is set. -/
def setAttribute (bench : Workbench) (number : Nat) (name value : String) : Workbench :=
  bench.update number fun draft =>
    { draft with attributes := Entries.set draft.attributes name value }

/-- A class is added to one element. -/
def addClass (bench : Workbench) (number : Nat) (name : String) : Workbench :=
  bench.update number fun draft =>
    { draft with attributes := Attributes.addClass draft.attributes name }

/-- Finished nodes are appended to one element. -/
def append (bench : Workbench) (number : Nat) (nodes : List Node) : Workbench :=
  bench.update number fun draft => { draft with pieces := draft.pieces ++ nodes.map .finished }

/-- One element becomes the last child of another. -/
def adopt (bench : Workbench) (number child : Nat) : Workbench :=
  bench.update number fun draft => { draft with pieces := draft.pieces ++ [.adopted child] }

/-- The tree of an element as it is now, if it is not deeper than the bound. -/
def treeWithin (bench : Workbench) : Nat → Nat → Option Node
  | 0, _ => none
  | depth + 1, number => do
    let draft := bench.draft number
    let children ← draft.pieces.mapM fun piece => match piece with
      | .finished node => some node
      | .adopted child => bench.treeWithin depth child
    return .element draft.tag draft.attributes children

/-- The tree of an element. There is none when the element contains itself: a tree without
repetition is no deeper than the number of elements. -/
def tree? (bench : Workbench) (number : Nat) : Option Node :=
  bench.treeWithin bench.drafts.length number

end Workbench

end CrossRef
