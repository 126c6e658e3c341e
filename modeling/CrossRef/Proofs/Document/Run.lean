import CrossRef.Document
import Mathlib.Data.List.Induction

/-!
Runs of a document: what one step does to one reference, and the induction over the steps of a run
that carries a property from new references to every reference there is. Resolving and rendering
only read the document, so they are no steps.
-/

namespace CrossRef.Document

/-! Runs. -/

/-- A run may be stopped and taken up again. -/
theorem run_append (document : Document) (first later : List Step) :
    document.run (first ++ later) = (document.run first).run later :=
  List.foldl_append

/-- The last step of a run follows the run of the steps before it. -/
theorem run_concat (document : Document) (steps : List Step) (step : Step) :
    document.run (steps ++ [step]) = (document.run steps).step step := by
  rw [run_append]
  rfl

/-- Declarations in one scope are entered in their order. -/
theorem run_declare (document : Document) (scope : ScopeId) (pairs : List (String × String)) :
    document.run (pairs.map fun pair => .declare scope pair.1 pair.2) =
      { document with
        scopes := document.scopes.modify scope fun found =>
          { found with
            attributes := pairs.foldl (fun known pair => Entries.set known pair.1 pair.2)
              found.attributes } } := by
  induction pairs generalizing document with
  | nil => exact congrArg (fun scopes => { document with scopes }) (List.modify_id ..).symm
  | cons pair rest ih =>
      rw [List.map_cons, run, List.foldl_cons]
      change (document.declare scope pair.1 pair.2).run _ = _
      rw [ih, declare, List.modify_modify_eq]
      rfl

/-- Looked at from its end, a run is asked for its last step first. -/
theorem findSome?_reverse_concat {α : Type} (answer? : Step → Option α) (steps : List Step)
    (step : Step) :
    (steps ++ [step]).reverse.findSome? answer? =
      (answer? step).or (steps.reverse.findSome? answer?) := by
  rw [List.reverse_append, List.findSome?_append]
  congr 1
  cases asked : answer? step <;> simp [asked]

/-- A number that comes into use when one thing is added is the number of that thing. -/
theorem eq_of_added {count number : Nat} (absent : count ≤ number)
    (present : ¬count + 1 ≤ number) : number = count :=
  Nat.le_antisymm (Nat.lt_succ_iff.mp (Nat.lt_of_not_le present)) absent

/-! References. -/

/-- What a step does to the reference with a number, in the document that the step finds. -/
def Step.effect (document : Document) (node : NodeId) (step : Step) (reference : Reference) :
    Reference :=
  match step with
  | .enter other scope =>
    if other = node then reference.enter (document.chain scope) else reference
  | .normalise other categoryPrefixes =>
    if other = node then reference.normalise categoryPrefixes else reference
  | .aim other target => if other = node then reference.setTarget target else reference
  | .appendContent other content => if other = node then reference.append content else reference
  | .openRoot | .openChild _ | .declare .. | .newReference _ | .leave .. | .newLabel ..
  | .appendLabel .. => reference

/-- A change of one reference leaves the others as they are. -/
theorem reference_updateReference (document : Document) {node : NodeId}
    (present : node < document.nodes.length) (other : NodeId) (change : Reference → Reference) :
    (document.updateReference other change).reference node =
      if other = node then change (document.reference node) else document.reference node := by
  simp only [reference, updateReference, List.getD_eq_getElem?_getD, List.getElem?_modify,
    List.getElem?_eq_getElem present]
  split <;> rfl

/-- A step changes a reference that is there by its effect. -/
theorem reference_step (document : Document) {node : NodeId}
    (present : node < document.nodes.length) (step : Step) :
    (document.step step).reference node = step.effect document node (document.reference node) := by
  cases step with
  | openRoot | openChild | declare | leave | newLabel | appendLabel => rfl
  | newReference content =>
      simp only [Document.step, Step.effect, reference, List.getD_eq_getElem?_getD,
        List.getElem?_append_left present]
  | enter other scope => exact reference_updateReference document present other _
  | normalise other categoryPrefixes =>
      exact reference_updateReference document present other _
  | aim other target => exact reference_updateReference document present other _
  | appendContent other content => exact reference_updateReference document present other _

/-- A number without a reference stands for a new one without content. -/
theorem reference_of_le {document : Document} {node : NodeId}
    (absent : document.nodes.length ≤ node) : document.reference node = {} := by
  rw [reference, List.getD_eq_getElem?_getD, List.getElem?_eq_none absent]
  rfl

/-- A reference that is not there before a step is a new one after it. -/
theorem reference_step_of_le {document : Document} {node : NodeId}
    (absent : document.nodes.length ≤ node) (step : Step) :
    ∃ paragraph, (document.step step).reference node = { paragraph } := by
  by_cases still : (document.step step).nodes.length ≤ node
  · exact ⟨{}, reference_of_le still⟩
  · cases step with
    | newReference content =>
        simp only [Document.step, List.length_append, List.length_singleton] at still
        obtain rfl : node = document.nodes.length := eq_of_added absent still
        exact ⟨⟨content⟩, by simp [Document.step, reference]⟩
    | openRoot | openChild | declare | leave | newLabel | appendLabel => exact absurd absent still
    | enter | normalise | aim | appendContent =>
        simp only [Document.step, enter, updateRegister, updateReference,
          List.length_modify] at still
        exact absurd absent still

/-- A property of a reference and of the steps so far holds after every run if it holds of new
references and the effect of every step keeps it. -/
theorem reference_run (node : NodeId) (holds : List Step → Reference → Prop)
    (fresh : ∀ steps paragraph, holds steps { paragraph })
    (kept : ∀ steps step, holds steps ((blank.run steps).reference node) →
      holds (steps ++ [step])
        (step.effect (blank.run steps) node ((blank.run steps).reference node)))
    (steps : List Step) : holds steps ((blank.run steps).reference node) := by
  induction steps using List.reverseRecOn with
  | nil => exact fresh [] {}
  | append_singleton steps step ih =>
      rw [run_concat]
      by_cases present : node < (blank.run steps).nodes.length
      · rw [reference_step _ present]
        exact kept steps step ih
      · obtain ⟨paragraph, equal⟩ := reference_step_of_le (Nat.le_of_not_lt present) step
        rw [equal]
        exact fresh _ paragraph

/-- No step takes a reference away. -/
theorem length_nodes_step (document : Document) (step : Step) :
    document.nodes.length ≤ (document.step step).nodes.length := by
  cases step with
  | newReference content =>
      simp only [Document.step, List.length_append]
      apply Nat.le_add_right
  | openRoot | openChild | declare | leave | newLabel | appendLabel => exact Nat.le_refl _
  | enter | normalise | aim | appendContent =>
      simp [Document.step, enter, updateRegister, updateReference]

/-- A property of a reference that is there, and of the steps since then, holds after steps of one
kind if it holds before them and the effect of every step of that kind keeps it. -/
theorem reference_run_from {document : Document} {node : NodeId}
    (present : node < document.nodes.length) {allowed : Step → Prop}
    (holds : List Step → Reference → Prop) (start : holds [] (document.reference node))
    (kept : ∀ steps document step reference, allowed step → holds steps reference →
      holds (steps ++ [step]) (Step.effect document node step reference))
    (steps : List Step) (every : ∀ step ∈ steps, allowed step) :
    holds steps ((document.run steps).reference node) := by
  suffices both : node < (document.run steps).nodes.length ∧
      holds steps ((document.run steps).reference node) from both.2
  induction steps using List.reverseRecOn with
  | nil => exact ⟨present, start⟩
  | append_singleton steps step ih =>
      obtain ⟨earlier, last⟩ := List.forall_mem_append.mp every
      obtain ⟨still, held⟩ := ih earlier
      rw [run_concat, reference_step _ still]
      exact ⟨Nat.lt_of_lt_of_le still (length_nodes_step _ step),
        kept steps _ step _ (last step List.mem_cons_self) held⟩

end CrossRef.Document
