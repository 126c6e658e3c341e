import CrossRef.Proofs.Document.History
import CrossRef.Proofs.Document.Registers
import Mathlib.Data.List.Basic

/-!
Scopes and registers in a run: what a document knows about its scopes is what the history of the
run says. A look-up finds the last declaration of the nearest scope, and the scopes of one tree
share one register, which holds one entry for each step that has something to collect.
-/

namespace CrossRef.Document

variable {steps : List Step} {scope : ScopeId}

/-! The scopes around a scope. -/

/-- A scope lies in scopes that were opened before it. -/
theorem outer?_lt (within : staysWithin 1 steps = true) {outer : ScopeId}
    (inside : outer? steps scope = some outer) : outer < scope := by
  induction steps, within using within_induction generalizing scope outer with
  | start =>
      cases scope with
      | zero => cases inside
      | succ scope => cases inside
  | kept steps step earlier within named ih =>
      rcases Nat.lt_or_ge scope (openings (steps ++ [step])).length with present | absent
      · rcases lt_openings_concat present with before | ⟨rfl, opening, opened⟩
        · rw [outer?_concat_of_lt before] at inside
          exact ih inside
        · rw [outer?_concat_length, opened] at inside
          cases step with
          | openChild parent =>
              cases opened
              cases inside
              exact named _ rfl
          | openRoot =>
              cases opened
              cases inside
          | _ => cases opened
      · rw [outer?_of_le absent] at inside
        cases inside

theorem around_of_inside (within : staysWithin 1 steps = true) {outer : ScopeId}
    (inside : outer? steps scope = some outer) :
    around steps scope = scope :: around steps outer := by
  rw [around, inside]
  exact congrArg _ (if_pos (outer?_lt within inside))

theorem around_of_outermost (outermost : outer? steps scope = none) :
    around steps scope = [scope] := by
  rw [around, outermost]

/-- The scopes around a scope have smaller numbers. -/
theorem le_of_mem_around {other : ScopeId} (member : other ∈ around steps scope) :
    other ≤ scope := by
  induction scope using Nat.strongRecOn with
  | ind scope ih =>
      rw [around, List.mem_cons] at member
      rcases member with rfl | further
      · exact Nat.le_refl _
      · split at further
        · split at further
          · next smaller => exact Nat.le_trans (ih _ smaller further) (Nat.le_of_lt smaller)
          · cases further
        · cases further

/-- On the way outwards the numbers of scopes decrease. -/
theorem pairwise_around (steps : List Step) (scope : ScopeId) :
    (around steps scope).Pairwise (· > ·) := by
  induction scope using Nat.strongRecOn with
  | ind scope ih =>
      rw [around]
      split
      · split
        · next smaller =>
            exact .cons (fun other member => Nat.lt_of_le_of_lt (le_of_mem_around member) smaller)
              (ih _ smaller)
        · exact List.pairwise_singleton _ _
      · exact List.pairwise_singleton _ _

theorem around_ne_nil (steps : List Step) (scope : ScopeId) : around steps scope ≠ [] := by
  rw [around]
  exact List.cons_ne_nil _ _

theorem rootOf_le (steps : List Step) (scope : ScopeId) : rootOf steps scope ≤ scope := by
  rw [rootOf, List.getLastD_eq_getLast?, List.getLast?_eq_some_getLast (around_ne_nil steps scope)]
  exact le_of_mem_around (List.getLast_mem _)

/-- A scope has the root of the scope around it. -/
theorem rootOf_of_inside (within : staysWithin 1 steps = true) {outer : ScopeId}
    (inside : outer? steps scope = some outer) : rootOf steps scope = rootOf steps outer := by
  obtain ⟨nearest, further, walk⟩ := List.exists_cons_of_ne_nil (around_ne_nil steps outer)
  rw [rootOf, around_of_inside within inside, rootOf, walk]
  rfl

theorem rootOf_of_outermost (outermost : outer? steps scope = none) :
    rootOf steps scope = scope := by
  rw [rootOf, around_of_outermost outermost]
  rfl

/-- The scopes around a scope stay the same. -/
theorem around_concat (within : staysWithin 1 steps = true)
    (present : scope < (openings steps).length) (step : Step) :
    around (steps ++ [step]) scope = around steps scope := by
  induction scope using Nat.strongRecOn with
  | ind scope ih =>
      have same := outer?_concat_of_lt present step
      cases inside : outer? steps scope with
      | none => rw [around_of_outermost (same.trans inside), around_of_outermost inside]
      | some outer =>
          have smaller := outer?_lt within inside
          rw [around, same, inside, around_of_inside within inside]
          have further := ih outer smaller (Nat.lt_trans smaller present)
          exact congrArg _ ((if_pos smaller).trans further)

theorem rootOf_concat (within : staysWithin 1 steps = true)
    (present : scope < (openings steps).length) (step : Step) :
    rootOf (steps ++ [step]) scope = rootOf steps scope := by
  rw [rootOf, around_concat within present, rootOf]

/-- Nothing was declared in a scope that is not there. -/
theorem latest?_of_le (within : staysWithin 1 steps = true)
    (absent : (openings steps).length ≤ scope) (name : String) :
    latest? steps scope name = none := by
  induction steps, within using within_induction with
  | start => rfl
  | kept steps step earlier within named ih =>
      rw [openings_concat, List.length_append] at absent
      rw [latest?_concat, ih (by omega), Option.or_none]
      cases step with
      | declare other known value =>
          have different : ¬(other = scope ∧ known = name) := by
            rintro ⟨rfl, -⟩
            exact absurd (named other rfl) (by omega)
          exact if_neg different
      | _ => rfl

/-- Nothing was collected for a root that is not there. -/
theorem collected_of_le {α : Type} (within : staysWithin 1 steps = true) {root : ScopeId}
    (absent : (openings steps).length ≤ root) (item? : List Step → Step → Option α) :
    collected root item? steps = [] := by
  induction steps, within using within_induction with
  | start => rfl
  | kept steps step earlier within named ih =>
      rw [openings_concat, List.length_append] at absent
      have elsewhere : step.scope?.any (rootOf steps · = root) = false := by
        rw [Option.any_eq_false]
        intro other taken
        have smaller := Nat.lt_of_le_of_lt (rootOf_le steps other) (named other taken)
        exact decide_eq_false (Nat.ne_of_lt (by omega))
      rw [collected_concat, ih (by omega), elsewhere]
      rfl

/-! The scopes of a document. -/

/-- What a step declares in a scope. -/
def Step.declared (scope : ScopeId) (attributes : Attributes) : Step → Attributes
  | .declare other name value =>
    if other = scope then Entries.set attributes name value else attributes
  | _ => attributes

/-- A scope that is there changes by what a step declares in it. -/
theorem scope_step (document : Document) (present : scope < document.scopes.length)
    (step : Step) :
    (document.step step).scope scope =
      { document.scope scope with
        attributes := step.declared scope (document.scope scope).attributes } := by
  cases step with
  | openRoot | openChild =>
      simp only [Document.step, openRoot, openChild, Document.scope, List.getD_eq_getElem?_getD,
        List.getElem?_append_left present, Step.declared]
  | declare other name value =>
      simp only [Document.step, declare, Document.scope, List.getD_eq_getElem?_getD,
        List.getElem?_modify, List.getElem?_eq_getElem present, Step.declared]
      split <;> rfl
  | _ => rfl

/-- A scope that is opened declares nothing. It belongs to the tree of the scope around it, or to
a tree of its own. -/
theorem scope_opened (document : Document) {step : Step} {opening : Option ScopeId}
    (opened : step.opening? = some opening) :
    (document.step step).scope document.scopes.length =
      { tree := (opening.map fun outer => (document.scope outer).tree).getD document.trees.length
        path := document.scopes.length ::
          (opening.map fun outer => (document.scope outer).path).getD [] } := by
  cases step with
  | openRoot =>
      cases opened
      simp [Document.step, openRoot, Document.scope]
  | openChild parent =>
      cases opened
      simp [Document.step, openChild, Document.scope]
  | _ => cases opened

/-- There are as many scopes as the history says. -/
theorem length_scopes_run (steps : List Step) :
    (blank.run steps).scopes.length = (openings steps).length := by
  induction steps using List.reverseRecOn with
  | nil => rfl
  | append_singleton steps step ih =>
      rw [run_concat, openings_concat, List.length_append, ← ih]
      cases step with
      | openRoot | openChild => simp [Document.step, openRoot, openChild, Step.opening?]
      | declare => simp [Document.step, declare, Step.opening?]
      | _ => rfl

/-- The path of a scope leads through the scopes around it. -/
theorem path_run (within : staysWithin 1 steps = true)
    (present : scope < (openings steps).length) :
    ((blank.run steps).scope scope).path = around steps scope := by
  induction steps, within using within_induction generalizing scope with
  | start =>
      obtain rfl : scope = 0 := Nat.lt_one_iff.mp present
      exact (around_of_outermost rfl).symm
  | kept steps step earlier within named ih =>
      have count := length_scopes_run steps
      rw [run_concat]
      rcases lt_openings_concat present with before | ⟨rfl, opening, opened⟩
      · rw [scope_step _ (count ▸ before), around_concat earlier before]
        exact ih before
      · have around_new := outer?_concat_length steps step
        rw [opened] at around_new
        rw [← count, scope_opened _ opened, count]
        cases opening with
        | none => exact (around_of_outermost around_new).symm
        | some outer =>
            have smaller := outer?_lt within around_new
            rw [around_of_inside within around_new, around_concat earlier smaller]
            exact congrArg _ (ih smaller)

/-- A scope holds for every name what was declared last. -/
theorem attributes_run (within : staysWithin 1 steps = true)
    (present : scope < (openings steps).length) (name : String) :
    Entries.get? ((blank.run steps).scope scope).attributes name = latest? steps scope name := by
  induction steps, within using within_induction generalizing scope with
  | start =>
      obtain rfl : scope = 0 := Nat.lt_one_iff.mp present
      rfl
  | kept steps step earlier within named ih =>
      have count := length_scopes_run steps
      rw [run_concat, latest?_concat]
      rcases lt_openings_concat present with before | ⟨rfl, opening, opened⟩
      · rw [scope_step _ (count ▸ before), ← ih before]
        cases step with
        | declare other known value =>
            simp only [Step.declared, Step.value?]
            by_cases here : other = scope
            · rw [if_pos here, Entries.get?_set]
              by_cases same : name = known
              · rw [if_pos same, if_pos ⟨here, same.symm⟩, Option.some_or]
              · rw [if_neg same, if_neg fun both => same both.2.symm, Option.none_or]
            · rw [if_neg here, if_neg fun both => here both.1, Option.none_or]
        | _ => rfl
      · rw [← count, scope_opened _ opened, count, latest?_of_le earlier (Nat.le_refl _)]
        cases step with
        | openRoot | openChild => rfl
        | _ => cases opened

/-- Two scopes belong to one tree exactly when they have one root. -/
theorem tree_run_iff (within : staysWithin 1 steps = true) {other : ScopeId}
    (present : scope < (openings steps).length) (there : other < (openings steps).length) :
    ((blank.run steps).scope scope).tree = ((blank.run steps).scope other).tree ↔
      rootOf steps scope = rootOf steps other := by
  induction steps, within using within_induction generalizing scope other with
  | start =>
      obtain rfl : scope = 0 := Nat.lt_one_iff.mp present
      obtain rfl : other = 0 := Nat.lt_one_iff.mp there
      simp
  | kept steps step earlier within named ih =>
      -- A scope that is opened shares tree and root with the scope around it, or both are new.
      have known {scope : ScopeId} (before : scope < (openings steps).length) :
          (((blank.run steps).step step).scope scope).tree =
              ((blank.run steps).scope scope).tree ∧
            rootOf (steps ++ [step]) scope = rootOf steps scope := by
        rw [scope_step _ (length_scopes_run steps ▸ before)]
        exact ⟨rfl, rootOf_concat earlier before step⟩
      have placed {opening : Option ScopeId} (opened : step.opening? = some opening)
          {other : ScopeId} (before : other < (openings steps).length) :
          (((blank.run steps).step step).scope (openings steps).length).tree =
              ((blank.run steps).scope other).tree ↔
            rootOf (steps ++ [step]) (openings steps).length = rootOf steps other := by
        have around_new := outer?_concat_length steps step
        rw [opened] at around_new
        rw [← length_scopes_run steps, scope_opened _ opened, length_scopes_run steps]
        cases opening with
        | none =>
            have older := hasTrees_run steps other
            have smaller := rootOf_le steps other
            rw [rootOf_of_outermost around_new]
            exact iff_of_false (Nat.ne_of_gt older)
              (Nat.ne_of_gt (Nat.lt_of_le_of_lt smaller before))
        | some outer =>
            have smaller := outer?_lt within around_new
            rw [rootOf_of_inside within around_new, rootOf_concat earlier smaller]
            exact ih smaller before
      rw [run_concat]
      rcases lt_openings_concat present with before | ⟨rfl, opening, opened⟩
      · rw [(known before).1, (known before).2]
        rcases lt_openings_concat there with also | ⟨rfl, opening, opened⟩
        · rw [(known also).1, (known also).2]
          exact ih before also
        · rw [eq_comm, placed opened before, eq_comm]
      · rcases lt_openings_concat there with also | ⟨rfl, -⟩
        · rw [(known also).1, (known also).2]
          exact placed opened also
        · simp

/-! Look-up and registers. -/

/-- Seen from a scope, a name has the value that was declared last in the nearest scope where it
was ever declared. -/
theorem get?_chain_run (within : staysWithin 1 steps = true)
    (present : scope < (openings steps).length) (name : String) :
    ((blank.run steps).chain scope).get? name false = nearest? steps scope name := by
  rw [ScopeChain.get?, if_neg (by decide), chain, path_run within present, List.findSome?_map,
    nearest?, ← List.head?_filterMap, ← List.head?_filterMap]
  refine congrArg _ (List.filterMap_congr fun other member => ?_)
  exact attributes_run within (Nat.lt_of_le_of_lt (le_of_mem_around member) present) name

/-- In the scope itself a name has the value that was declared last there. -/
theorem get?_own_run (within : staysWithin 1 steps = true)
    (present : scope < (openings steps).length) (name : String) :
    ((blank.run steps).chain scope).get? name true = latest? steps scope name := by
  obtain ⟨further, walk⟩ : ∃ further, around steps scope = scope :: further := ⟨_, around.eq_1 ..⟩
  rw [ScopeChain.get?, if_pos rfl, chain, path_run within present, walk]
  exact attributes_run within present name

/-- The address that entering a scope admits is the one that was declared there last, if it is
accepted. -/
theorem admission_run (within : staysWithin 1 steps = true)
    (present : scope < (openings steps).length) :
    ((blank.run steps).chain scope).admission.url? =
      (latest? steps scope "ref-url").filter (Admission.isExternal ·.toList) := by
  rw [ScopeChain.admission, get?_own_run within present]
  cases latest? steps scope "ref-url" with
  | none => rfl
  | some url =>
      rw [Admission.ofUrl?, Option.filter_some]
      by_cases empty : url.isEmpty
      · rw [String.isEmpty_iff.mp empty]
        rfl
      · rw [if_neg empty]
        split <;> rfl

/-- What a step adds to the register of a scope is what the history collects from it. -/
theorem recorded_run (within : staysWithin 1 steps = true)
    (present : scope < (openings steps).length) {step : Step}
    (named : ∀ other ∈ step.scope?, other < (openings steps).length) :
    let tree := ((blank.run steps).scope scope).tree
    let inTree := step.scope?.any (rootOf steps · = rootOf steps scope)
    step.admitted (blank.run steps) tree =
        (if inTree then (step.accepted? steps).toList else []) ∧
      step.departed (blank.run steps) tree =
        if inTree then (step.left? steps).toList else [] := by
  cases step with
  | enter node other =>
      have there := named other rfl
      simp only [Step.admitted, Step.departed, Step.scope?, Option.any_some, decide_eq_true_eq,
        tree_run_iff within there present, admission_run within there, Step.accepted?, Step.left?]
      simp
  | leave node other =>
      have there := named other rfl
      simp only [Step.admitted, Step.departed, Step.scope?, Option.any_some, decide_eq_true_eq,
        tree_run_iff within there present, Step.accepted?, Step.left?]
      simp
  | _ => simp [Step.admitted, Step.departed, Step.accepted?, Step.left?]

/-- The scopes of a tree share one register. It holds, in the order of the steps, the addresses
that were accepted and the references that were left in scopes of the tree. -/
theorem register_run (within : staysWithin 1 steps = true)
    (present : scope < (openings steps).length) :
    (blank.run steps).register scope =
      { links := collected (rootOf steps scope) Step.accepted? steps
        references := collected (rootOf steps scope) Step.left? steps } := by
  induction steps, within using within_induction generalizing scope with
  | start =>
      obtain rfl : scope = 0 := Nat.lt_one_iff.mp present
      rfl
  | kept steps step earlier within named ih =>
      -- The register of a scope that was there before, seen after the step.
      have known {scope : ScopeId} (before : scope < (openings steps).length) :
          ((blank.run steps).step step).registerOf ((blank.run steps).scope scope).tree =
            { links := collected (rootOf steps scope) Step.accepted? (steps ++ [step])
              references := collected (rootOf steps scope) Step.left? (steps ++ [step]) } := by
        obtain ⟨admitted, departed⟩ := recorded_run earlier before named
        have same : (blank.run steps).registerOf ((blank.run steps).scope scope).tree = _ :=
          ih before
        rw [registerOf_step _ (hasTrees_run steps scope), linksOf, same, admitted, departed,
          collected_concat, collected_concat]
      rw [run_concat]
      change ((blank.run steps).step step).registerOf _ = _
      rcases lt_openings_concat present with before | ⟨rfl, opening, opened⟩
      · rw [tree_step _ (length_scopes_run steps ▸ before), rootOf_concat earlier before]
        exact known before
      · have around_new := outer?_concat_length steps step
        rw [opened] at around_new
        rw [← length_scopes_run steps, scope_opened _ opened, length_scopes_run steps]
        cases opening with
        | none =>
            have nothing {α : Type} (item? : List Step → Step → Option α) :
                collected (openings steps).length item? (steps ++ [step]) = [] := by
              rw [collected_concat, collected_of_le earlier (Nat.le_refl _)]
              cases step with
              | openRoot => rfl
              | _ => cases opened
            rw [rootOf_of_outermost around_new, nothing, nothing]
            exact registerOf_step_of_le (Nat.le_refl _) step
        | some outer =>
            have smaller := outer?_lt within around_new
            rw [rootOf_of_inside within around_new, rootOf_concat earlier smaller]
            exact known smaller

/-! Main result. -/

/-- Whatever the run: a look-up from a scope asks the scope itself and the scopes around it, each
opened before the last one, and finds the value that was declared last in the nearest of them that
ever declared the name; the scope alone answers with its own last declaration. All scopes of a tree
see one register: the addresses accepted and the references left in scopes of the tree, one for each
step that has one, in the order of the steps. -/
theorem lookup_of_history (within : staysWithin 1 steps = true)
    (present : scope < (openings steps).length) :
    let document := blank.run steps
    ((document.scope scope).path = around steps scope ∧
      (around steps scope).Pairwise (· > ·)) ∧
    (∀ name, (document.chain scope).get? name false = nearest? steps scope name) ∧
    (∀ name, (document.chain scope).get? name true = latest? steps scope name) ∧
    document.links scope = collected (rootOf steps scope) Step.accepted? steps ∧
    (document.register scope).references = collected (rootOf steps scope) Step.left? steps :=
  ⟨⟨path_run within present, pairwise_around steps scope⟩, get?_chain_run within present,
    get?_own_run within present, congrArg Register.links (register_run within present),
    congrArg Register.references (register_run within present)⟩

/-- A declaration that comes after the inner scope was opened is seen from there, but not as its
own. The address accepted in the inner scope and the reference left there stay out of the other
tree. -/
theorem lookup_of_late_declaration :
    let steps : List Step :=
      [.openChild 0, .openRoot, .newReference [.run "A"], .declare 0 "text-size" "9",
        .declare 0 "text-size" "10", .declare 1 "ref-url" "http://a", .declare 2 "ref-url" "a",
        .enter 0 1, .enter 0 2, .leave 0 1]
    staysWithin 1 steps = true ∧ 1 < (openings steps).length ∧ 2 < (openings steps).length ∧
      nearest? steps 1 "text-size" = some "10" ∧ latest? steps 1 "text-size" = none ∧
      collected (rootOf steps 1) Step.accepted? steps = ["http://a"] ∧
      collected (rootOf steps 1) Step.left? steps = [0] ∧
      collected (rootOf steps 2) Step.accepted? steps = [] ∧
      collected (rootOf steps 2) Step.left? steps = [] := by
  intro steps
  have within : staysWithin 1 steps = true := rfl
  have inner : 1 < (openings steps).length := by decide
  have other : 2 < (openings steps).length := by decide
  obtain ⟨-, seen, own, links, references⟩ := lookup_of_history within inner
  obtain ⟨-, -, -, otherLinks, otherReferences⟩ := lookup_of_history within other
  exact ⟨within, inner, other, (seen "text-size").symm.trans rfl, (own "text-size").symm.trans rfl,
    links.symm.trans rfl, references.symm.trans rfl, otherLinks.symm.trans rfl,
    otherReferences.symm.trans rfl⟩

end CrossRef.Document
