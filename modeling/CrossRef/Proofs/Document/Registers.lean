import CrossRef.Proofs.Document.Run

/-!
Registers in a run: a scope keeps its tree, every scope has a tree, and the register of a tree only
grows, by the address that the scope entered admits and by the reference that is left.
-/

namespace CrossRef.Document

/-- The register of a tree. -/
def registerOf (document : Document) (tree : Nat) : Register :=
  document.trees.getD tree default

/-- The addresses that a tree has collected. -/
def linksOf (document : Document) (tree : Nat) : List String :=
  (document.registerOf tree).links

/-- The addresses seen from a scope. -/
def links (document : Document) (scope : ScopeId) : List String :=
  (document.register scope).links

/-! Trees. -/

/-- A scope that is there keeps its tree. -/
theorem tree_step (document : Document) {scope : ScopeId} (present : scope < document.scopes.length)
    (step : Step) : ((document.step step).scope scope).tree = (document.scope scope).tree := by
  cases step with
  | openRoot | openChild =>
      simp only [Document.step, openRoot, openChild, Document.scope, List.getD_eq_getElem?_getD,
        List.getElem?_append_left present]
  | declare other name value =>
      simp only [Document.step, declare, Document.scope, List.getD_eq_getElem?_getD,
        List.getElem?_modify, List.getElem?_eq_getElem present]
      split <;> rfl
  | _ => rfl

/-- Scopes stay. -/
theorem length_scopes_step (document : Document) (step : Step) :
    document.scopes.length ≤ (document.step step).scopes.length := by
  cases step with
  | openRoot | openChild => simp [Document.step, openRoot, openChild]
  | declare => simp [Document.step, declare]
  | _ => exact Nat.le_refl _

/-- Trees stay. -/
theorem length_trees_step (document : Document) (step : Step) :
    document.trees.length ≤ (document.step step).trees.length := by
  cases step with
  | openRoot => simp [Document.step, openRoot]
  | enter | leave => simp [Document.step, enter, leave, updateRegister, updateReference]
  | _ => exact Nat.le_refl _

/-- Every number of a scope leads to a tree. -/
def HasTrees (document : Document) : Prop :=
  ∀ scope, (document.scope scope).tree < document.trees.length

/-- A number without a scope stands for a scope of the first tree that declares nothing. -/
theorem scope_of_le {document : Document} {scope : ScopeId}
    (absent : document.scopes.length ≤ scope) : document.scope scope = default := by
  rw [Document.scope, List.getD_eq_getElem?_getD, List.getElem?_eq_none absent]
  rfl

/-- A step leaves no scope without a tree. -/
theorem HasTrees.step {document : Document} (rooted : document.HasTrees) (step : Step) :
    (document.step step).HasTrees := by
  intro scope
  by_cases present : scope < document.scopes.length
  · rw [tree_step _ present]
    exact Nat.lt_of_lt_of_le (rooted scope) (length_trees_step document step)
  · have absent := Nat.le_of_not_lt present
    have first := rooted scope
    rw [scope_of_le absent] at first
    by_cases still : (document.step step).scopes.length ≤ scope
    · rw [scope_of_le still]
      exact Nat.lt_of_lt_of_le first (length_trees_step document step)
    · cases step with
      | openRoot =>
          simp only [Document.step, openRoot, List.length_append, List.length_singleton] at still
          obtain rfl : scope = document.scopes.length := eq_of_added absent still
          simp [Document.step, openRoot, Document.scope]
      | openChild parent =>
          simp only [Document.step, openChild, List.length_append, List.length_singleton] at still
          obtain rfl : scope = document.scopes.length := eq_of_added absent still
          simpa [Document.step, openChild, Document.scope] using rooted parent
      | declare other name value =>
          simp only [Document.step, declare, List.length_modify] at still
          exact absurd absent still
      | _ => exact absurd absent still

/-- After every run every scope has a tree. -/
theorem hasTrees_run (steps : List Step) : (blank.run steps).HasTrees := by
  induction steps using List.reverseRecOn with
  | nil =>
      intro scope
      cases scope with
      | zero => exact Nat.one_pos
      | succ scope => exact Nat.one_pos
  | append_singleton steps step ih =>
      rw [run_concat]
      exact ih.step step

/-! Registers. -/

/-- The addresses that a step adds to a tree: the one that the scope entered admits, if it is a
scope of that tree. -/
def Step.admitted (document : Document) (tree : Nat) : Step → List String
  | .enter _ scope =>
    if (document.scope scope).tree = tree then (document.chain scope).admission.url?.toList else []
  | _ => []

/-- The references that a step adds to a tree: the one that is left, if it is left in a scope of
that tree. -/
def Step.departed (document : Document) (tree : Nat) : Step → List NodeId
  | .leave node scope => if (document.scope scope).tree = tree then [node] else []
  | _ => []

/-- A change of the register of one tree leaves the others as they are. -/
theorem registerOf_updateRegister (document : Document) {tree : Nat}
    (present : tree < document.trees.length) (scope : ScopeId) (change : Register → Register) :
    (document.updateRegister scope change).registerOf tree =
      if (document.scope scope).tree = tree then change (document.registerOf tree)
      else document.registerOf tree := by
  simp only [registerOf, updateRegister, List.getD_eq_getElem?_getD, List.getElem?_modify,
    List.getElem?_eq_getElem present]
  split <;> rfl

/-- A tree that is there keeps its register, and gets what the step admits and leaves. -/
theorem registerOf_step (document : Document) {tree : Nat} (present : tree < document.trees.length)
    (step : Step) :
    (document.step step).registerOf tree =
      { links := document.linksOf tree ++ step.admitted document tree
        references := (document.registerOf tree).references ++ step.departed document tree } := by
  cases step with
  | openRoot =>
      simp only [Document.step, openRoot, registerOf, linksOf, List.getD_eq_getElem?_getD,
        List.getElem?_append_left present, Step.admitted, Step.departed, List.append_nil]
  | enter node scope =>
      have updated := registerOf_updateRegister
        (document.updateReference node (·.enter (document.chain scope))) present scope
        fun register =>
          { register with
            links := register.links ++ (document.chain scope).admission.url?.toList }
      refine updated.trans ?_
      change ite ((document.scope scope).tree = tree) _ _ = _
      by_cases same : (document.scope scope).tree = tree
      · simp only [if_pos same, Step.admitted, Step.departed, List.append_nil]
        rfl
      · simp only [if_neg same, Step.admitted, Step.departed, List.append_nil]
        rfl
  | leave node scope =>
      have updated := registerOf_updateRegister document present scope
        fun register => { register with references := register.references ++ [node] }
      refine updated.trans ?_
      by_cases same : (document.scope scope).tree = tree
      · simp only [if_pos same, Step.admitted, Step.departed, List.append_nil]
        rfl
      · simp only [if_neg same, Step.admitted, Step.departed, List.append_nil]
        rfl
  | _ => exact (congrArg₂ Register.mk (List.append_nil _) (List.append_nil _)).symm

/-- A tree that is not there before a step has an empty register after it. -/
theorem registerOf_step_of_le {document : Document} {tree : Nat}
    (absent : document.trees.length ≤ tree) (step : Step) :
    (document.step step).registerOf tree = {} := by
  by_cases still : (document.step step).trees.length ≤ tree
  · rw [registerOf, List.getD_eq_getElem?_getD, List.getElem?_eq_none still]
    rfl
  · cases step with
    | openRoot =>
        simp only [Document.step, openRoot, List.length_append, List.length_singleton] at still
        obtain rfl : tree = document.trees.length := eq_of_added absent still
        simp [Document.step, openRoot, registerOf]
    | enter | leave =>
        simp only [Document.step, enter, leave, updateRegister, updateReference,
          List.length_modify] at still
        exact absurd absent still
    | _ => exact absurd absent still

/-! Addresses. -/

/-- A tree that is there keeps its addresses, and gets those that the step admits. -/
theorem linksOf_step (document : Document) {tree : Nat} (present : tree < document.trees.length)
    (step : Step) :
    (document.step step).linksOf tree = document.linksOf tree ++ step.admitted document tree :=
  congrArg Register.links (registerOf_step document present step)

/-- A tree that is not there before a step has no addresses after it. -/
theorem linksOf_step_of_le {document : Document} {tree : Nat}
    (absent : document.trees.length ≤ tree) (step : Step) :
    (document.step step).linksOf tree = [] :=
  congrArg Register.links (registerOf_step_of_le absent step)

/-- A scope that is there keeps seeing the addresses of its tree, and sees those that a step
adds. -/
theorem links_step {document : Document} (rooted : document.HasTrees) {scope : ScopeId}
    (present : scope < document.scopes.length) (step : Step) :
    (document.step step).links scope =
      document.links scope ++ step.admitted document (document.scope scope).tree := by
  change (document.step step).linksOf ((document.step step).scope scope).tree = _
  rw [tree_step _ present, linksOf_step _ (rooted scope)]
  rfl

/-- Entering a reference in a scope adds the address that the scope admits. -/
theorem links_enter {document : Document} (rooted : document.HasTrees) (node : NodeId)
    (scope : ScopeId) :
    (document.step (.enter node scope)).links scope =
      document.links scope ++ (document.chain scope).admission.url?.toList := by
  change (document.step (.enter node scope)).linksOf (document.scope scope).tree = _
  rw [linksOf_step _ (rooted scope), Step.admitted, if_pos rfl]
  rfl

/-- Addresses stay in sight of a scope that is there. -/
theorem mem_links_run {document : Document} (rooted : document.HasTrees) {scope : ScopeId}
    (present : scope < document.scopes.length) {url : String} (member : url ∈ document.links scope)
    (steps : List Step) : url ∈ (document.run steps).links scope := by
  induction steps generalizing document with
  | nil => exact member
  | cons step rest ih =>
      have still := Nat.lt_of_lt_of_le present (length_scopes_step document step)
      refine ih (rooted.step step) still ?_
      rw [links_step rooted present]
      exact List.mem_append_left _ member

end CrossRef.Document
