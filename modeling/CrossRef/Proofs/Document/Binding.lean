import CrossRef.Proofs.Document.Registers

/-!
Entering a reference: the scope itself is asked for the names of references, and the nearest
declaration for those of texts. What else is declared in the scope and around it, and what the
reference was before, takes no part in what it is bound to.
-/

namespace CrossRef

namespace ScopeChain

/-- The names that a reference looks up in its own scope alone. -/
def ownNames : List String :=
  ["ref-page", "ref-key", "ref-url", "ref-page-suffix", "ref-infer-page", "ref-no-link"]

/-- The names that a reference looks up in the scopes around it as well. -/
def inheritedNames : List String :=
  ["text-italic", "text-bold", "text-size", "text-class-header"]

/-- Two chains agree when they give a reference the same answers. -/
structure Agrees (first second : ScopeChain) : Prop where
  own : ∀ name ∈ ownNames, first.get? name true = second.get? name true
  inherited : ∀ name ∈ inheritedNames, first.get? name false = second.get? name false

namespace Agrees

variable {first second : ScopeChain}

/-- Chains that agree have the same style. -/
theorem style_eq (agree : first.Agrees second) : first.style = second.style := by
  have boolean_eq {name : String} (member : name ∈ inheritedNames) :
      first.boolean name false false = second.boolean name false false := by
    rw [boolean, agree.inherited name member, boolean]
  have size : first.number "text-size" 0 false = second.number "text-size" 0 false := by
    rw [number, agree.inherited "text-size" (by decide), number]
  rw [style, boolean_eq (by decide), boolean_eq (by decide), boolean_eq (by decide), size, style]

/-- Chains that agree admit the same address. -/
theorem admission_eq (agree : first.Agrees second) : first.admission = second.admission := by
  rw [admission, agree.own "ref-url" (by decide), admission]

/-- Chains that agree bind a reference alike. -/
theorem binding_eq (agree : first.Agrees second) : first.binding = second.binding := by
  have boolean_eq {name : String} (member : name ∈ ownNames) :
      first.boolean name false true = second.boolean name false true := by
    rw [boolean, agree.own name member, boolean]
  rw [binding, agree.style_eq, agree.admission_eq, agree.own "ref-page" (by decide),
    agree.own "ref-key" (by decide), agree.own "ref-page-suffix" (by decide),
    boolean_eq (by decide), boolean_eq (by decide), binding]

end Agrees

end ScopeChain

namespace Document

/-- A document differs from the one before in nothing but the binding of one reference, and an
address that all scopes of one tree see in addition, if there is one. -/
structure Binds (before after : Document) (node : NodeId) (scope : ScopeId) (binding : Binding)
    (address : Option String) : Prop where
  reference : after.reference node = { before.reference node with binding }
  others : ∀ other, other ≠ node → after.reference other = before.reference other
  links : ∀ other, after.links other = before.links other ++
    if (before.scope scope).tree = (before.scope other).tree then address.toList else []
  departed : ∀ other, (after.register other).references = (before.register other).references
  scopes : after.scopes = before.scopes
  labels : after.labels = before.labels

/-- Entering a reference binds it to what its scope declares. -/
theorem binds_enter {document : Document} (rooted : document.HasTrees) {node : NodeId}
    (present : node < document.nodes.length) (scope : ScopeId) :
    document.Binds (document.step (.enter node scope)) node scope
      (document.chain scope).binding (document.chain scope).admission.url? where
  reference := by
    rw [reference_step document present, Step.effect, if_pos rfl]
    rfl
  others other different := by
    change (document.updateReference node _).reference other = _
    simp only [Document.reference, updateReference, List.getD_eq_getElem?_getD,
      List.getElem?_modify, if_neg different.symm]
    simp
  links other := linksOf_step document (rooted other) (.enter node scope)
  departed other := by
    have register := registerOf_step document (rooted other) (.enter node scope)
    exact (congrArg Register.references register).trans (List.append_nil _)
  scopes := rfl
  labels := rfl

/-! Main result. -/

/-- Let two references be entered, in any two documents, whatever they were bound to before, in
scopes that agree. Then both get the same binding, and the scopes of either tree see the same
address in addition, or none. Content, edges, target, prefixes and resolution of both stay, and so
do all other references, the registered references, the scopes with their attributes, and the
labels. -/
theorem enter_binds_alike {first second : Document} (rooted : first.HasTrees)
    (alsoRooted : second.HasTrees) {node other : NodeId} (present : node < first.nodes.length)
    (alsoPresent : other < second.nodes.length) {scope place : ScopeId}
    (agree : (first.chain scope).Agrees (second.chain place)) :
    ∃ (binding : Binding) (address : Option String),
      first.Binds (first.step (.enter node scope)) node scope binding address ∧
      second.Binds (second.step (.enter other place)) other place binding address := by
  refine ⟨_, _, binds_enter rooted present scope, ?_⟩
  rw [agree.binding_eq, agree.admission_eq]
  exact binds_enter alsoRooted alsoPresent place

/-- A reference in a scope whose size is no number is bound like one in a scope of another tree that
declares the same size and address, though the first lies in a scope with a size and a key, and the
second was bound to a page, normalised and aimed at a label before. -/
theorem enter_binds_alike_inner :
    let first := blank.run [.declare 0 "text-size" "9", .declare 0 "ref-key" "outer",
      .openChild 0, .declare 1 "text-size" "big", .declare 1 "ref-url" "http://a",
      .newReference [.run "a"]]
    let second := blank.run [.declare 0 "text-size" "big", .declare 0 "ref-url" "http://a",
      .declare 0 "page" "A", .openRoot, .declare 1 "ref-page" "B", .newLabel "top" [],
      .newReference [.run "b"], .enter 0 1, .normalise 0 [], .aim 0 (some 0)]
    let one := first.step (.enter 0 1)
    let other := second.step (.enter 0 0)
    first.HasTrees ∧ second.HasTrees ∧ 0 < first.nodes.length ∧ 0 < second.nodes.length ∧
      (first.chain 1).Agrees (second.chain 0) ∧
      (one.reference 0).binding = (other.reference 0).binding ∧
      one.links 0 = ["http://a"] ∧ other.links 0 = ["http://a"] ∧ other.links 1 = [] ∧
      (other.reference 0).resolution = some (.target 0 true) := by
  intro first second one other
  have rooted : first.HasTrees := hasTrees_run _
  have alsoRooted : second.HasTrees := hasTrees_run _
  have agree : (first.chain 1).Agrees (second.chain 0) := ⟨by decide, by decide⟩
  obtain ⟨binding, address, binds, alsoBinds⟩ :=
    enter_binds_alike rooted alsoRooted Nat.zero_lt_one Nat.zero_lt_one agree
  refine ⟨rooted, alsoRooted, Nat.zero_lt_one, Nat.zero_lt_one, agree, ?_, ?_⟩
  · rw [binds.reference, alsoBinds.reference]
  · exact ⟨rfl, rfl, rfl, rfl⟩

end Document

end CrossRef
