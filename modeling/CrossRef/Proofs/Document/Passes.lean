import CrossRef.Proofs.Document.Resolution
import CrossRef.Proofs.Reference.Normalised

/-!
Passes over a reference: as long as a reference is not entered again and nothing is added to its
content, it may be normalised and aimed at labels in any order and any number of times. What it
becomes is decided by the latest target and the latest prefixes.
-/

namespace CrossRef

/-- What a reference becomes with a latest target and latest prefixes, where there are any. -/
def Reference.settled (reference : Reference) (target : Option (Option LabelId))
    (categoryPrefixes : Option (List String)) : Reference :=
  let aimed := target.elim reference reference.setTarget
  categoryPrefixes.elim aimed aimed.normalise

namespace Reference

/-- A settled reference that is normalised is settled for these prefixes. -/
theorem normalise_settled (reference : Reference) (target : Option (Option LabelId))
    (earlier : Option (List String)) (categoryPrefixes : List String) :
    (reference.settled target earlier).normalise categoryPrefixes =
      reference.settled target (some categoryPrefixes) := by
  cases earlier with
  | none => rfl
  | some earlier => exact normalise_normalise _ earlier categoryPrefixes

/-- A settled reference that is given a target is settled with this target. -/
theorem setTarget_settled (reference : Reference) (earlier : Option (Option LabelId))
    (categoryPrefixes : Option (List String)) (target : Option LabelId) :
    (reference.settled earlier categoryPrefixes).setTarget target =
      reference.settled (some target) categoryPrefixes := by
  have aimed : (earlier.elim reference reference.setTarget).setTarget target =
      reference.setTarget target := by
    cases earlier with
    | none => rfl
    | some earlier => exact reference.setTarget_setTarget earlier target
  cases categoryPrefixes with
  | none => exact aimed
  | some categoryPrefixes =>
      change ((earlier.elim reference reference.setTarget).normalise categoryPrefixes).setTarget
        target = (reference.setTarget target).normalise categoryPrefixes
      rw [setTarget_normalise, aimed]

end Reference

namespace Document

/-- The target that a step gives a reference, which may be that it has none. -/
def Step.aimFor? (node : NodeId) : Step → Option (Option LabelId)
  | .aim other target => if other = node then some target else none
  | _ => none

/-- The target of the latest step that gives a reference one. -/
def latestAim? (steps : List Step) (node : NodeId) : Option (Option LabelId) :=
  steps.reverse.findSome? (Step.aimFor? node)

/-- The last step of a run has the last word on the target. -/
theorem latestAim?_concat (steps : List Step) (step : Step) (node : NodeId) :
    latestAim? (steps ++ [step]) node = (step.aimFor? node).or (latestAim? steps node) :=
  findSome?_reverse_concat _ steps step

/-- A step spares a reference when it neither enters it nor adds to its content. -/
def Step.Spares (node : NodeId) : Step → Prop
  | .enter other _ | .appendContent other _ => other ≠ node
  | _ => True

/-- A step that spares a settled reference settles it, if it does anything to it. -/
theorem effect_settled (document : Document) {node : NodeId} {step : Step}
    (spares : step.Spares node) (reference : Reference) (target : Option (Option LabelId))
    (categoryPrefixes : Option (List String)) :
    step.effect document node (reference.settled target categoryPrefixes) =
      reference.settled ((step.aimFor? node).or target)
        ((step.prefixesFor? node).or categoryPrefixes) := by
  cases step with
  | normalise other later =>
      by_cases same : other = node
      · simp only [Step.effect, Step.aimFor?, Step.prefixesFor?, if_pos same, Option.none_or,
          Option.some_or]
        exact reference.normalise_settled target categoryPrefixes later
      · simp only [Step.effect, Step.aimFor?, Step.prefixesFor?, if_neg same, Option.none_or]
  | aim other later =>
      by_cases same : other = node
      · simp only [Step.effect, Step.aimFor?, Step.prefixesFor?, if_pos same, Option.none_or,
          Option.some_or]
        exact reference.setTarget_settled target categoryPrefixes later
      · simp only [Step.effect, Step.aimFor?, Step.prefixesFor?, if_neg same, Option.none_or]
  | enter other scope => exact if_neg spares
  | appendContent other content => exact if_neg spares
  | openRoot | openChild | declare | newReference | leave | newLabel | appendLabel => rfl

/-- Steps that spare a reference leave it settled with the latest target and the latest prefixes
among them. -/
theorem reference_run_settled {document : Document} {node : NodeId}
    (present : node < document.nodes.length) {steps : List Step}
    (spared : ∀ step ∈ steps, step.Spares node) :
    (document.run steps).reference node =
      (document.reference node).settled (latestAim? steps node) (latestPrefixes? steps node) := by
  apply reference_run_from present (fun steps reference =>
    reference = (document.reference node).settled (latestAim? steps node)
      (latestPrefixes? steps node)) rfl ?_ steps spared
  intro steps document step reference spares settled
  rw [settled, effect_settled document spares, latestAim?_concat, latestPrefixes?_concat]

/-! Main result. -/

/-- Whatever the state of a reference, let it be normalised at least once and aimed any number of
times, in any order and between any other steps that neither enter it nor add to its content. Then
it is the same in every part as if it had been given the last target alone, if there was one, and
then been normalised once, for the last prefixes. So a target that is taken back leaves a reference
without a target as it was normalised. -/
theorem reference_run_passes {document : Document} {node : NodeId}
    (present : node < document.nodes.length) {steps : List Step}
    (spared : ∀ step ∈ steps, step.Spares node) {categoryPrefixes : List String}
    (normalised : latestPrefixes? steps node = some categoryPrefixes) :
    (document.run steps).reference node =
      (document.run (((latestAim? steps node).map (Step.aim node)).toList ++
        [.normalise node categoryPrefixes])).reference node ∧
    ((document.reference node).target = none → ∀ label,
      (document.run [.normalise node categoryPrefixes, .aim node (some label),
          .aim node none]).reference node =
        (document.run [.normalise node categoryPrefixes]).reference node) := by
  constructor
  · have single (target : Option (Option LabelId)) :
        (document.run ((target.map (Step.aim node)).toList ++
          [.normalise node categoryPrefixes])).reference node =
            (document.reference node).settled target (some categoryPrefixes) := by
      cases target with
      | none =>
          rw [reference_run_settled present (by simp [Step.Spares])]
          simp [latestAim?, latestPrefixes?, Step.aimFor?, Step.prefixesFor?]
      | some target =>
          rw [reference_run_settled present (by simp [Step.Spares])]
          simp [latestAim?, latestPrefixes?, List.findSome?, Step.aimFor?, Step.prefixesFor?]
    rw [reference_run_settled present spared, normalised, single]
  · intro aimless label
    have taken := Reference.setTarget_none_normalise aimless categoryPrefixes (some label)
    rw [Reference.setTarget_setTarget, Reference.setTarget_normalise] at taken
    rw [reference_run_settled present (by simp [Step.Spares]),
      reference_run_settled present (by simp [Step.Spares])]
    simpa [latestAim?, latestPrefixes?, List.findSome?, Step.aimFor?, Step.prefixesFor?,
      Reference.settled] using taken

/-- A reference that was aimed at a label, normalised twice and freed of its target resolves to its
address, as if it had never been aimed. -/
theorem reference_run_passes_address :
    let document := blank.run [.declare 0 "ref-url" "http://a", .newReference [.run "α  β"],
      .enter 0 0, .newLabel "top" []]
    let steps : List Step := [.aim 0 (some 0), .normalise 0 ["x"],
      .declare 0 "ref-infer-page" "yes", .normalise 0 [], .aim 0 none]
    0 < document.nodes.length ∧ (∀ step ∈ steps, step.Spares 0) ∧
      latestPrefixes? steps 0 = some [] ∧
      (document.run steps).reference 0 =
        (document.run [.aim 0 none, .normalise 0 []]).reference 0 ∧
      ((document.run steps).reference 0).resolution = some (.externalUrl "http://a") := by
  intro document steps
  have present : 0 < document.nodes.length := Nat.zero_lt_one
  have spared : ∀ step ∈ steps, step.Spares 0 := by simp [steps, Step.Spares]
  exact ⟨present, spared, rfl, (reference_run_passes present spared rfl).1, rfl⟩

end Document

end CrossRef
