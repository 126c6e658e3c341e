import CrossRef.Document
import Mathlib.Data.List.Induction

/-!
The history of a run: what its steps alone say about scopes, without the document that they make.
Which scopes lie around a scope, what was declared in it last, and what was collected in the scopes
of one tree, step by step.
-/

namespace CrossRef.Document

/-! Scopes. -/

/-- A step that opens a scope tells the scope around it. A root has none. -/
def Step.opening? : Step → Option (Option ScopeId)
  | .openRoot => some none
  | .openChild parent => some (some parent)
  | _ => none

/-- The scopes in the order of their numbers, each told by the scope around it. The first is a root
that is there before the first step. -/
def openings (steps : List Step) : List (Option ScopeId) :=
  none :: steps.filterMap Step.opening?

/-- The scope around a scope. -/
def outer? (steps : List Step) (scope : ScopeId) : Option ScopeId :=
  (openings steps)[scope]?.join

/-- A scope and the scopes around it, the nearest first. -/
def around (steps : List Step) (scope : ScopeId) : List ScopeId :=
  scope ::
    match outer? steps scope with
    | some outer => if outer < scope then around steps outer else []
    | none => []
termination_by scope

/-- The outermost scope around a scope. Scopes with the same root form a tree. -/
def rootOf (steps : List Step) (scope : ScopeId) : ScopeId :=
  (around steps scope).getLastD scope

/-- The scope that a step is taken in, or is to open another one in. -/
def Step.scope? : Step → Option ScopeId
  | .openChild scope | .declare scope .. | .enter _ scope | .leave _ scope => some scope
  | _ => none

/-- Every step is about a scope that is there when the step is taken. The count is of the scopes
that are there before the first step. -/
def staysWithin : Nat → List Step → Bool
  | _, [] => true
  | count, step :: rest =>
    step.scope?.all (· < count) && staysWithin (count + step.opening?.toList.length) rest

/-! Declarations. -/

/-- The value that a step declares for a name in a scope. -/
def Step.value? (scope : ScopeId) (name : String) : Step → Option String
  | .declare other known value => if other = scope ∧ known = name then some value else none
  | _ => none

/-- The value that was declared last for a name in a scope. -/
def latest? (steps : List Step) (scope : ScopeId) (name : String) : Option String :=
  (steps.filterMap (Step.value? scope name)).getLast?

/-- The value that was declared last in the nearest scope where the name was ever declared. -/
def nearest? (steps : List Step) (scope : ScopeId) (name : String) : Option String :=
  (around steps scope).findSome? (latest? steps · name)

/-! Collections. -/

/-- The address that is accepted when a scope is entered after some steps. -/
def Step.accepted? (before : List Step) : Step → Option String
  | .enter _ scope => (latest? before scope "ref-url").filter (Admission.isExternal ·.toList)
  | _ => none

/-- The reference that a step leaves. -/
def Step.left? (_ : List Step) : Step → Option NodeId
  | .leave node _ => some node
  | _ => none

/-- What further steps contribute, in their order, when they are taken in scopes of the tree with a
root. -/
def collectedFrom {α : Type} (root : ScopeId) (item? : List Step → Step → Option α) :
    List Step → List Step → List α
  | _, [] => []
  | before, step :: rest =>
    (if step.scope?.any (rootOf before · = root) then (item? before step).toList else []) ++
      collectedFrom root item? (before ++ [step]) rest

/-- What the steps contribute, in their order, when they are taken in scopes of the tree with a
root. -/
def collected {α : Type} (root : ScopeId) (item? : List Step → Step → Option α)
    (steps : List Step) : List α :=
  collectedFrom root item? [] steps

/-! One step more. -/

variable {steps : List Step} {scope : ScopeId}

theorem openings_concat (steps : List Step) (step : Step) :
    openings (steps ++ [step]) = openings steps ++ step.opening?.toList := by
  rw [openings, List.filterMap_append, openings, List.cons_append]
  cases opened : step.opening? <;> simp [opened]

/-- The scope around a scope stays the same. -/
theorem outer?_concat_of_lt (present : scope < (openings steps).length) (step : Step) :
    outer? (steps ++ [step]) scope = outer? steps scope := by
  rw [outer?, openings_concat, List.getElem?_append_left present, outer?]

/-- The scope that a step opens has the number of the scopes before it. -/
theorem outer?_concat_length (steps : List Step) (step : Step) :
    outer? (steps ++ [step]) (openings steps).length = step.opening?.join := by
  rw [outer?, openings_concat, List.getElem?_append_right (Nat.le_refl _), Nat.sub_self]
  cases step.opening? <;> rfl

/-- A number without a scope has no scope around it. -/
theorem outer?_of_le (absent : (openings steps).length ≤ scope) : outer? steps scope = none := by
  rw [outer?, List.getElem?_eq_none absent]
  rfl

/-- A scope that is there after a step was there before, or the step opens it. -/
theorem lt_openings_concat {step : Step}
    (present : scope < (openings (steps ++ [step])).length) :
    scope < (openings steps).length ∨
      scope = (openings steps).length ∧ ∃ opening, step.opening? = some opening := by
  rw [openings_concat, List.length_append] at present
  cases opened : step.opening? with
  | none =>
      rw [opened] at present
      exact Or.inl present
  | some opening =>
      rw [opened] at present
      change scope < (openings steps).length + 1 at present
      rcases Nat.lt_or_eq_of_le (Nat.lt_succ_iff.mp present) with before | same
      · exact Or.inl before
      · exact Or.inr ⟨same, opening, rfl⟩

/-- A declaration in a scope replaces the one before it. -/
theorem latest?_concat (steps : List Step) (step : Step) (scope : ScopeId) (name : String) :
    latest? (steps ++ [step]) scope name =
      (step.value? scope name).or (latest? steps scope name) := by
  rw [latest?, List.filterMap_append, latest?]
  cases declared : step.value? scope name <;> simp [declared]

theorem collectedFrom_concat {α : Type} (root : ScopeId)
    (item? : List Step → Step → Option α) (before steps : List Step) (step : Step) :
    collectedFrom root item? before (steps ++ [step]) =
      collectedFrom root item? before steps ++
        if step.scope?.any (rootOf (before ++ steps) · = root) then
          (item? (before ++ steps) step).toList
        else [] := by
  induction steps generalizing before with
  | nil => simp [collectedFrom]
  | cons first rest ih =>
      rw [List.cons_append, collectedFrom, ih, collectedFrom, List.append_assoc,
        List.append_assoc, List.singleton_append]

/-- A step adds one entry at the end if it is taken in the tree and has an entry. -/
theorem collected_concat {α : Type} (root : ScopeId) (item? : List Step → Step → Option α)
    (steps : List Step) (step : Step) :
    collected root item? (steps ++ [step]) =
      collected root item? steps ++
        if step.scope?.any (rootOf steps · = root) then (item? steps step).toList else [] :=
  collectedFrom_concat root item? [] steps step

theorem staysWithin_concat (count : Nat) (steps : List Step) (step : Step) :
    staysWithin count (steps ++ [step]) = true ↔
      staysWithin count steps = true ∧
        ∀ scope ∈ step.scope?, scope < count + (steps.filterMap Step.opening?).length := by
  induction steps generalizing count with
  | nil => cases named : step.scope? <;> simp [staysWithin, named]
  | cons first rest ih =>
      rw [List.cons_append, staysWithin, staysWithin, Bool.and_eq_true, Bool.and_eq_true, ih,
        and_assoc]
      cases opened : first.opening? <;> simp [opened, Nat.add_assoc, Nat.add_comm 1]

/-- A property of runs that name no scope before it is there holds of all of them if it holds
before the first step and every further step keeps it. -/
theorem within_induction {holds : ∀ steps, staysWithin 1 steps = true → Prop}
    (start : holds [] rfl)
    (kept : ∀ steps step (earlier : staysWithin 1 steps = true)
      (within : staysWithin 1 (steps ++ [step]) = true),
      (∀ scope ∈ step.scope?, scope < (openings steps).length) → holds steps earlier →
      holds (steps ++ [step]) within)
    (steps : List Step) (within : staysWithin 1 steps = true) : holds steps within := by
  induction steps using List.reverseRecOn with
  | nil => exact start
  | append_singleton steps step ih =>
      obtain ⟨earlier, named⟩ := (staysWithin_concat 1 steps step).mp within
      refine kept steps step earlier within (fun scope member => ?_) (ih earlier)
      simpa [openings, Nat.add_comm] using named scope member

end CrossRef.Document
