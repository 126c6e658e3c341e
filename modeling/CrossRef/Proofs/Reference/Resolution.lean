import CrossRef.Reference.Basic

/-!
Stored resolutions: the resolution of a reference depends on its binding, its target and the
prefixes alone, and a stored one is current when it is what the reference would resolve to now.
-/

namespace CrossRef.Reference

/-- A stored resolution is current when it is what the reference resolves to for the prefixes
stored beside it. A reference without one has nothing that could be out of date. -/
def IsCurrent (reference : Reference) : Prop :=
  ∀ resolution, reference.resolution = some resolution →
    resolution = reference.resolveNow reference.categoryPrefixes

/-- The content takes no part in the resolution. -/
theorem resolveNow_append (reference : Reference) (content : List Inline)
    (categoryPrefixes : List String) :
    (reference.append content).resolveNow categoryPrefixes =
      reference.resolveNow categoryPrefixes :=
  rfl

/-- A new target replaces the stored resolution, if there is one, by the present one. -/
theorem setTarget_eq (reference : Reference) (target : Option LabelId) :
    reference.setTarget target =
      { reference with
        target
        resolution := reference.resolution.map fun _ =>
          ({ reference with target } : Reference).resolveNow reference.categoryPrefixes } := by
  obtain ⟨paragraph, binding, edges, old, categoryPrefixes, resolution⟩ := reference
  cases resolution <;> rfl

/-- Only an address of the reference itself is resolved to. -/
theorem url_of_resolveNow {reference : Reference} {categoryPrefixes : List String} {url : String}
    (external : reference.resolveNow categoryPrefixes = .externalUrl url) :
    reference.binding.url = some url := by
  rw [resolveNow] at external
  split at external
  · cases external
  · split at external
    · next bound _ =>
        split at external
        · cases external
        · cases external
          assumption
    · cases external

/-! What makes a resolution current, and what keeps it so. -/

/-- A reference without a stored resolution is current. -/
theorem isCurrent_of_none {reference : Reference} (none : reference.resolution = none) :
    reference.IsCurrent := by
  intro resolution stored
  rw [none] at stored
  cases stored

/-- Normalising stores the present resolution. -/
theorem isCurrent_normalise (reference : Reference) (categoryPrefixes : List String) :
    (reference.normalise categoryPrefixes).IsCurrent := by
  intro resolution stored
  exact (Option.some.inj stored).symm

/-- A new target brings a stored resolution up to date. -/
theorem isCurrent_setTarget (reference : Reference) (target : Option LabelId) :
    (reference.setTarget target).IsCurrent := by
  rw [setTarget_eq]
  intro resolution stored
  obtain ⟨_, -, equal⟩ := Option.map_eq_some_iff.mp stored
  exact equal.symm

/-- New content leaves a current resolution current. -/
theorem IsCurrent.append {reference : Reference} (current : reference.IsCurrent)
    (content : List Inline) : (reference.append content).IsCurrent := by
  intro resolution stored
  rw [resolveNow_append]
  exact current resolution stored

/-- A current resolution is served only for the prefixes that it belongs to, so serving it cannot
be told from resolving anew. -/
theorem IsCurrent.resolve_eq {reference : Reference} (current : reference.IsCurrent)
    (categoryPrefixes : List String) :
    reference.resolve categoryPrefixes = reference.resolveNow categoryPrefixes := by
  rw [resolve]
  split
  · next resolution stored =>
      split
      · next same => rw [same, current resolution stored]
      · rfl
  · rfl

end CrossRef.Reference
