import CrossRef.Failure
import CrossRef.Reference.Output

/-!
A document in the making: scopes, references and labels, and the registers that all scopes of one
tree share.
-/

namespace CrossRef

/-- Scopes are known by their number. -/
abbrev ScopeId := Nat

/-- References are known by their number. -/
abbrev NodeId := Nat

/-- A scope knows its tree, and the numbers of itself and the scopes around it, the nearest
first. -/
structure Scope where
  tree : Nat
  path : List ScopeId
  attributes : Attributes := []
  deriving Inhabited

/-- What the scopes of one tree collect: the accepted addresses, and the references that were
left, in order. -/
structure Register where
  links : List String := []
  references : List NodeId := []
  deriving Inhabited

/-- All scopes, trees, references and labels, in the order in which they were made. -/
structure Document where
  scopes : List Scope := []
  trees : List Register := []
  nodes : List Reference := []
  labels : List Label := []
  deriving Inhabited

namespace Document

/-- A step changes the document. -/
inductive Step
  | openRoot
  | openChild (parent : ScopeId)
  | declare (scope : ScopeId) (name value : String)
  | newReference (content : List Inline)
  | enter (node : NodeId) (scope : ScopeId)
  | leave (node : NodeId) (scope : ScopeId)
  | normalise (node : NodeId) (categoryPrefixes : List String)
  | aim (node : NodeId) (target : Option LabelId)
  | appendContent (node : NodeId) (content : List Inline)
  | newLabel (bookmark : String) (content : List Inline)
  | appendLabel (label : LabelId) (content : List Inline)

/-- A scope by its number. -/
def scope (document : Document) (scope : ScopeId) : Scope :=
  document.scopes.getD scope default

/-- The register of the tree that a scope belongs to. -/
def register (document : Document) (scope : ScopeId) : Register :=
  document.trees.getD (document.scope scope).tree default

/-- A reference by its number. -/
def reference (document : Document) (node : NodeId) : Reference :=
  document.nodes.getD node default

/-- A label by its number. -/
def label (document : Document) (label : LabelId) : Label :=
  document.labels.getD label default

/-- The declarations that are seen from a scope. -/
def chain (document : Document) (scope : ScopeId) : ScopeChain :=
  (document.scope scope).path.map fun number => (document.scope number).attributes

/-- A new scope with a tree of its own. -/
def openRoot (document : Document) : Document :=
  { document with
    scopes := document.scopes ++ [⟨document.trees.length, [document.scopes.length], []⟩]
    trees := document.trees ++ [{}] }

/-- A new scope inside another one. -/
def openChild (document : Document) (parent : ScopeId) : Document :=
  let outer := document.scope parent
  { document with
    scopes := document.scopes ++ [⟨outer.tree, document.scopes.length :: outer.path, []⟩] }

/-- An attribute is declared in a scope. -/
def declare (document : Document) (scope : ScopeId) (name value : String) : Document :=
  { document with
    scopes := document.scopes.modify scope fun found =>
      { found with attributes := Entries.set found.attributes name value } }

/-- A reference is changed. -/
def updateReference (document : Document) (node : NodeId) (change : Reference → Reference) :
    Document :=
  { document with nodes := document.nodes.modify node change }

/-- The register of a tree is changed through one of its scopes. -/
def updateRegister (document : Document) (scope : ScopeId) (change : Register → Register) :
    Document :=
  { document with trees := document.trees.modify (document.scope scope).tree change }

/-- A reference is bound to the scope, and an accepted address is registered. -/
def enter (document : Document) (node : NodeId) (scope : ScopeId) : Document :=
  let chain := document.chain scope
  (document.updateReference node (·.enter chain)).updateRegister scope fun register =>
    { register with links := register.links ++ chain.admission.url?.toList }

/-- A reference is left, and registered for the labels to come. -/
def leave (document : Document) (node : NodeId) (scope : ScopeId) : Document :=
  document.updateRegister scope fun register =>
    { register with references := register.references ++ [node] }

/-- One step. -/
def step (document : Document) : Step → Document
  | .openRoot => document.openRoot
  | .openChild parent => document.openChild parent
  | .declare scope name value => document.declare scope name value
  | .newReference content =>
    { document with nodes := document.nodes ++ [{ paragraph := ⟨content⟩ }] }
  | .enter node scope => document.enter node scope
  | .leave node scope => document.leave node scope
  | .normalise node categoryPrefixes =>
    document.updateReference node (·.normalise categoryPrefixes)
  | .aim node target => document.updateReference node (·.setTarget target)
  | .appendContent node content => document.updateReference node (·.append content)
  | .newLabel bookmark content =>
    { document with labels := document.labels ++ [⟨bookmark, ⟨content⟩⟩] }
  | .appendLabel label content =>
    { document with
      labels := document.labels.modify label fun found =>
        { found with paragraph := found.paragraph.append content } }

/-- Several steps, one after the other. -/
def run (document : Document) (steps : List Step) : Document :=
  steps.foldl step document

/-- A document with one scope. -/
def blank : Document :=
  openRoot {}

/-- The output of a reference. -/
def output (document : Document) (node : NodeId) (presentation : Presentation) : List Node :=
  (document.reference node).output document.label presentation

end Document

end CrossRef
