import CrossRef.Proofs.Document.Run
import CrossRef.Proofs.Reference.Resolution
import Mathlib.Data.List.Basic

/-!
Stored resolutions in a run: normalising settles the resolution of a reference, and so does a new
target while a resolution is stored. As long as the reference is not entered again, the stored
resolution is what the reference would resolve to now, and asking for it gives the same answer as
resolving anew.
-/

namespace CrossRef.Document

/-- The prefixes that a step normalises a reference for. -/
def Step.prefixesFor? (node : NodeId) : Step → Option (List String)
  | .normalise other categoryPrefixes => if other = node then some categoryPrefixes else none
  | _ => none

/-- The prefixes of the latest step that normalises a reference. -/
def latestPrefixes? (steps : List Step) (node : NodeId) : Option (List String) :=
  steps.reverse.findSome? (Step.prefixesFor? node)

/-- The last step of a run has the last word on the prefixes. -/
theorem latestPrefixes?_concat (steps : List Step) (step : Step) (node : NodeId) :
    latestPrefixes? (steps ++ [step]) node =
      (step.prefixesFor? node).or (latestPrefixes? steps node) :=
  findSome?_reverse_concat _ steps step

/-- A step settles the resolution of a reference when it normalises it, or when it gives it a target
while a resolution is stored. -/
def Step.Settles (document : Document) (node : NodeId) : Step → Prop
  | .normalise other _ => other = node
  | .aim other _ => other = node ∧ (document.reference node).resolution.isSome
  | _ => False

/-- A step enters a reference. -/
def Step.Enters (node : NodeId) : Step → Prop
  | .enter other _ => other = node
  | _ => False

/-- The resolution of a reference was settled in a run, and the reference was not entered after
that. -/
def IsSettled (steps : List Step) (node : NodeId) : Prop :=
  ∃ before step after, steps = before ++ step :: after ∧
    step.Settles (blank.run before) node ∧ ∀ later ∈ after, ¬later.Enters node

/-- A run is settled by its last step, or it was settled before and that step enters nothing. -/
theorem isSettled_concat {steps : List Step} {step : Step} {node : NodeId}
    (settled : IsSettled (steps ++ [step]) node) :
    step.Settles (blank.run steps) node ∨ IsSettled steps node ∧ ¬step.Enters node := by
  obtain ⟨before, settling, after, whole, settles, quiet⟩ := settled
  rcases List.eq_nil_or_concat' after with rfl | ⟨earlier, last, rfl⟩
  · obtain ⟨rfl, equal⟩ := List.append_inj' whole rfl
    obtain rfl := List.singleton_inj.mp equal
    exact Or.inl settles
  · rw [← List.cons_append, ← List.append_assoc] at whole
    obtain ⟨rfl, equal⟩ := List.append_inj' whole rfl
    obtain rfl := List.singleton_inj.mp equal
    refine Or.inr ⟨⟨before, settling, earlier, rfl, settles, fun later member => ?_⟩, ?_⟩
    · exact quiet later (List.mem_append_left _ member)
    · exact quiet step (List.mem_append_right _ List.mem_cons_self)

/-! Single steps. -/

/-- A step that does not enter a reference normalises it for the prefixes that the step names. If it
names none, it gives the reference a target, adds to its content, or leaves it as it is. -/
theorem effect_cases (document : Document) {node : NodeId} {step : Step}
    (quiet : ¬step.Enters node) (reference : Reference) :
    (∃ categoryPrefixes, step.prefixesFor? node = some categoryPrefixes ∧
      step.effect document node reference = reference.normalise categoryPrefixes) ∨
    step.prefixesFor? node = none ∧
      ((∃ target, step.effect document node reference = reference.setTarget target) ∨
        (∃ content, step.effect document node reference = reference.append content) ∨
        step.effect document node reference = reference) := by
  cases step with
  | enter other scope => exact Or.inr ⟨rfl, Or.inr (Or.inr (if_neg quiet))⟩
  | normalise other categoryPrefixes =>
      by_cases same : other = node
      · exact Or.inl ⟨categoryPrefixes, if_pos same, if_pos same⟩
      · exact Or.inr ⟨if_neg same, Or.inr (Or.inr (if_neg same))⟩
  | aim other target =>
      by_cases same : other = node
      · exact Or.inr ⟨rfl, Or.inl ⟨target, if_pos same⟩⟩
      · exact Or.inr ⟨rfl, Or.inr (Or.inr (if_neg same))⟩
  | appendContent other content =>
      by_cases same : other = node
      · exact Or.inr ⟨rfl, Or.inr (Or.inl ⟨content, if_pos same⟩)⟩
      · exact Or.inr ⟨rfl, Or.inr (Or.inr (if_neg same))⟩
  | openRoot | openChild | declare | newReference | leave | newLabel | appendLabel =>
      exact Or.inr ⟨rfl, Or.inr (Or.inr rfl)⟩

/-- A step that settles a resolution makes it current. -/
theorem isCurrent_effect_of_settles {document : Document} {node : NodeId} {step : Step}
    (settles : step.Settles document node) (reference : Reference) :
    (step.effect document node reference).IsCurrent := by
  cases step with
  | normalise other categoryPrefixes =>
      obtain rfl : other = node := settles
      simpa [Step.effect] using reference.isCurrent_normalise categoryPrefixes
  | aim other target =>
      obtain ⟨rfl, -⟩ := settles
      simpa [Step.effect] using reference.isCurrent_setTarget target
  | _ => exact settles.elim

/-- A step that does not enter a reference keeps a current resolution current. -/
theorem isCurrent_effect {document : Document} {node : NodeId} {step : Step}
    (quiet : ¬step.Enters node) {reference : Reference} (current : reference.IsCurrent) :
    (step.effect document node reference).IsCurrent := by
  rcases effect_cases document quiet reference with
    ⟨categoryPrefixes, -, fresh⟩ | ⟨-, ⟨target, aimed⟩ | ⟨content, added⟩ | kept⟩
  · rw [fresh]
    exact reference.isCurrent_normalise categoryPrefixes
  · rw [aimed]
    exact reference.isCurrent_setTarget target
  · rw [added]
    exact current.append content
  · rw [kept]
    exact current

/-- A step that leaves no resolution behind found none, and one that normalises leaves its prefixes
beside the resolution. -/
theorem categoryPrefixes_effect (document : Document) (node : NodeId) (step : Step)
    (reference : Reference) (stored : (step.effect document node reference).resolution.isSome) :
    step.prefixesFor? node = some (step.effect document node reference).categoryPrefixes ∨
      step.prefixesFor? node = none ∧ reference.resolution.isSome ∧
        (step.effect document node reference).categoryPrefixes = reference.categoryPrefixes := by
  cases step with
  | normalise other categoryPrefixes =>
      by_cases same : other = node
      · simp [Step.effect, Step.prefixesFor?, same, Reference.normalise]
      · simpa [Step.effect, Step.prefixesFor?, same] using stored
  | aim other target =>
      refine Or.inr ⟨rfl, ?_⟩
      by_cases same : other = node
      · simpa [Step.effect, same, Reference.setTarget_eq] using stored
      · simpa [Step.effect, same] using stored
  | enter other scope =>
      refine Or.inr ⟨rfl, ?_⟩
      by_cases same : other = node
      · simpa [Step.effect, same, Reference.enter] using stored
      · simpa [Step.effect, same] using stored
  | appendContent other content =>
      refine Or.inr ⟨rfl, ?_⟩
      by_cases same : other = node
      · simpa [Step.effect, same, Reference.append] using stored
      · simpa [Step.effect, same] using stored
  | _ => exact Or.inr ⟨rfl, stored, rfl⟩

/-! Whole runs. -/

/-- While the resolution of a reference is settled it is current. -/
theorem isCurrent_of_isSettled (steps : List Step) (node : NodeId)
    (settled : IsSettled steps node) : ((blank.run steps).reference node).IsCurrent := by
  refine reference_run node (fun steps reference => IsSettled steps node → reference.IsCurrent)
    (fun _ _ _ => Reference.isCurrent_of_none rfl) (fun steps step current settled => ?_)
    steps settled
  rcases isSettled_concat settled with settles | ⟨before, quiet⟩
  · exact isCurrent_effect_of_settles settles _
  · exact isCurrent_effect quiet (current before)

/-- The prefixes beside a stored resolution are those of the latest step that normalised the
reference. -/
theorem latestPrefixes?_of_stored (steps : List Step) (node : NodeId)
    (stored : ((blank.run steps).reference node).resolution.isSome) :
    latestPrefixes? steps node = some ((blank.run steps).reference node).categoryPrefixes := by
  refine reference_run node
    (fun steps reference => reference.resolution.isSome →
      latestPrefixes? steps node = some reference.categoryPrefixes)
    (fun _ _ stored => absurd stored Bool.false_ne_true) (fun steps step known stored => ?_)
    steps stored
  rw [latestPrefixes?_concat]
  rcases categoryPrefixes_effect _ node step _ stored with fresh | ⟨other, before, kept⟩
  · rw [fresh, Option.some_or]
  · rw [other, kept, Option.none_or]
    exact known before

/-! Main result. -/

/-- If a reference stores no resolution, or was not entered since its resolution was last settled,
then the stored resolution is what it resolves to for the prefixes of the latest step that
normalised it. For any prefixes, asking for the resolution is resolving anew, and the output shows
what the reference resolves to for the prefixes of the presentation. -/
theorem resolution_of_isSettled (steps : List Step) (node : NodeId)
    (settled : ((blank.run steps).reference node).resolution = none ∨ IsSettled steps node) :
    let document := blank.run steps
    let reference := document.reference node
    (reference.resolution = none ∨
      ∃ categoryPrefixes, latestPrefixes? steps node = some categoryPrefixes ∧
        reference.resolution = some (reference.resolveNow categoryPrefixes)) ∧
    (∀ categoryPrefixes,
      reference.resolve categoryPrefixes = reference.resolveNow categoryPrefixes) ∧
    ∀ presentation, document.output node presentation =
      reference.outputFor document.label presentation
        (reference.resolveNow presentation.categoryPrefixes) := by
  intro document reference
  have current : reference.IsCurrent :=
    settled.elim Reference.isCurrent_of_none (isCurrent_of_isSettled steps node)
  refine ⟨?_, current.resolve_eq, fun presentation => ?_⟩
  · cases stored : reference.resolution with
    | none => exact Or.inl rfl
    | some resolution =>
        refine Or.inr ⟨reference.categoryPrefixes, ?_, ?_⟩
        · exact latestPrefixes?_of_stored steps node (by rw [stored]; rfl)
        · rw [current resolution stored]
  · rw [output, Reference.output, current.resolve_eq]

/-- A reference that was entered again is settled by its next target: it resolves to the label, and
without a link, as it was declared after it had been normalised. -/
theorem resolution_of_aim_after_enter :
    let steps : List Step :=
      [.newReference [.run "Unit"], .normalise 0 ["Unit"], .declare 0 "ref-no-link" "yes",
        .newLabel "unit" [], .enter 0 0, .aim 0 (some 0), .appendContent 0 [.run "s"]]
    IsSettled steps 0 ∧
      ∀ categoryPrefixes,
        ((blank.run steps).reference 0).resolve categoryPrefixes = .target 0 false := by
  intro steps
  have settled : IsSettled steps 0 :=
    ⟨[.newReference [.run "Unit"], .normalise 0 ["Unit"], .declare 0 "ref-no-link" "yes",
        .newLabel "unit" [], .enter 0 0], .aim 0 (some 0), [.appendContent 0 [.run "s"]], rfl,
      ⟨rfl, rfl⟩, by simp [Step.Enters]⟩
  refine ⟨settled, fun categoryPrefixes => ?_⟩
  exact ((resolution_of_isSettled steps 0 (Or.inr settled)).2.1 categoryPrefixes).trans rfl

end CrossRef.Document
