import CrossRef.Proofs.Document.Resolution
import CrossRef.Proofs.Output.CategoryLink

/-!
Output without options: a reference that was normalised for some prefixes is written for those of
the presentation, which are the default ones if nothing else is asked for. The stored resolution is
written only if these prefixes make no difference to the link.
-/

namespace CrossRef

namespace Reference

/-- A reference stores what it resolves to for some prefixes, and these prefixes. -/
structure Stores (reference : Reference) (categoryPrefixes : List String) : Prop where
  prefixes : reference.categoryPrefixes = categoryPrefixes
  resolution : reference.resolution = some (reference.resolveNow categoryPrefixes)

variable {reference : Reference} {categoryPrefixes : List String}

/-- Normalising stores the resolution for the prefixes. -/
theorem stores_normalise (reference : Reference) (categoryPrefixes : List String) :
    (reference.normalise categoryPrefixes).Stores categoryPrefixes :=
  ⟨rfl, rfl⟩

/-- A new target replaces the stored resolution by that for the same prefixes. -/
theorem Stores.setTarget (stores : reference.Stores categoryPrefixes) (target : Option LabelId) :
    (reference.setTarget target).Stores categoryPrefixes := by
  obtain ⟨rfl, stored⟩ := stores
  rw [setTarget_eq, stored]
  exact ⟨rfl, rfl⟩

/-- New content leaves the stored resolution as it is. -/
theorem Stores.append (stores : reference.Stores categoryPrefixes) (content : List Inline) :
    (reference.append content).Stores categoryPrefixes :=
  ⟨stores.prefixes, stores.resolution⟩

/-- A reference that stores its resolution resolves to it for these prefixes, and anew for
others. -/
theorem Stores.resolve_eq (stores : reference.Stores categoryPrefixes) (others : List String) :
    reference.resolve others = reference.resolveNow others := by
  refine IsCurrent.resolve_eq (fun resolution stored => ?_) others
  rw [stores.prefixes]
  exact Option.some.inj (stored.symm.trans stores.resolution)

end Reference

namespace Document

/-- A step that does not enter a reference leaves it storing its resolution, for the prefixes of the
step if it normalises the reference. -/
theorem stores_effect (document : Document) {node : NodeId} {step : Step}
    (quiet : ¬step.Enters node) {reference : Reference} {earlier : Option (List String)}
    (stored : ∀ categoryPrefixes, earlier = some categoryPrefixes →
      reference.Stores categoryPrefixes)
    {categoryPrefixes : List String}
    (latest : (step.prefixesFor? node).or earlier = some categoryPrefixes) :
    (step.effect document node reference).Stores categoryPrefixes := by
  rcases effect_cases document quiet reference with ⟨fresh, named, effect⟩ | ⟨silent, changed⟩
  · rw [named, Option.some_or] at latest
    obtain rfl := Option.some.inj latest
    rw [effect]
    exact reference.stores_normalise fresh
  · rw [silent, Option.none_or] at latest
    have before := stored _ latest
    rcases changed with ⟨target, aimed⟩ | ⟨content, added⟩ | kept
    · rw [aimed]
      exact before.setTarget target
    · rw [added]
      exact before.append content
    · rw [kept]
      exact before

/-- While a reference is not entered it stores its resolution for the prefixes that it was last
normalised for. -/
theorem stores_run {document : Document} {node : NodeId} (present : node < document.nodes.length)
    {steps : List Step} (quiet : ∀ step ∈ steps, ¬step.Enters node) :
    ∀ categoryPrefixes, latestPrefixes? steps node = some categoryPrefixes →
      ((document.run steps).reference node).Stores categoryPrefixes := by
  apply reference_run_from present (fun steps reference =>
    ∀ categoryPrefixes, latestPrefixes? steps node = some categoryPrefixes →
      reference.Stores categoryPrefixes) (by intro categoryPrefixes latest; cases latest) ?_ steps
    quiet
  intro steps document step reference still stored categoryPrefixes latest
  rw [latestPrefixes?_concat] at latest
  exact stores_effect document still stored latest

/-! Main result. -/

/-- Whatever the state of a reference, let it be normalised at least once and aimed any number of
times, in any order and between any other steps that do not enter it. Then it stores what it
resolves to for the last prefixes, and this is what is written for a presentation with the same
prefixes. Without options it is written as what it resolves to for the default prefixes: with the
mark of categories exactly when that is a link to a category, and without its content exactly when
it has some besides. That is the output of the stored resolution exactly when both are links to a
category, or none is. -/
theorem output_default_eq_iff {document : Document} {node : NodeId}
    (present : node < document.nodes.length) {steps : List Step}
    (quiet : ∀ step ∈ steps, ¬step.Enters node) {categoryPrefixes : List String}
    (normalised : latestPrefixes? steps node = some categoryPrefixes) :
    let final := document.run steps
    let reference := final.reference node
    let written := reference.outputFor final.label
    let anew := reference.resolveNow defaultCategoryPrefixes
    ∃ stored, reference.resolution = some stored ∧
      stored = reference.resolveNow categoryPrefixes ∧
      (∀ presentation : Presentation, presentation.categoryPrefixes = categoryPrefixes →
        final.output node presentation = written presentation stored) ∧
      final.output node {} = written {} anew ∧
      ((∃ head ∈ Node.headsOfList (final.output node {}),
        "data-is-category" ∈ Entries.names head.attributes) ↔ anew.isCategoryLink = true) ∧
      ((∃ attributes, final.output node {} = [.element "btex-link" attributes []]) ↔
        anew.isCategoryLink = true ∧ reference.paragraph.isBlank = false) ∧
      (final.output node {} = written {} stored ↔
        stored.isCategoryLink = anew.isCategoryLink) := by
  intro final reference written anew
  have stores : reference.Stores categoryPrefixes := stores_run present quiet _ normalised
  have shown (presentation : Presentation) : final.output node presentation =
      written presentation (reference.resolveNow presentation.categoryPrefixes) := by
    rw [output, Reference.output, stores.resolve_eq]
  have default : final.output node {} = written {} anew := shown {}
  refine ⟨_, stores.resolution, rfl, ?_, default, ?_, ?_, ?_⟩
  · rintro presentation rfl
    exact shown presentation
  · rw [default]
    exact Reference.exists_mark_iff anew
  · rw [default]
    exact Reference.exists_eq_emptyLink_iff anew
  · rw [default, eq_comm]
    exact Reference.outputFor_eq_iff

/-- A reference that is a link to a category for its own prefixes and for the default ones is
written as it is stored, whatever it was aimed at in between. -/
theorem output_default_eq_iff_category :
    let document := blank.run [.declare 0 "ref-infer-page" "yes", .newReference [.run "Category:A"],
      .enter 0 0, .newLabel "top" []]
    let steps : List Step := [.normalise 0 ["A"], .aim 0 (some 0),
      .normalise 0 ["Kategorie:", "Category:"], .aim 0 none]
    let final := document.run steps
    0 < document.nodes.length ∧ (∀ step ∈ steps, ¬step.Enters 0) ∧
      latestPrefixes? steps 0 = some ["Kategorie:", "Category:"] ∧
      ∃ stored, (final.reference 0).resolution = some stored ∧ stored.isCategoryLink = true ∧
        final.output 0 {} = (final.reference 0).outputFor final.label {} stored := by
  intro document steps final
  have present : 0 < document.nodes.length := Nat.zero_lt_one
  have quiet : ∀ step ∈ steps, ¬step.Enters 0 := by simp [steps, Step.Enters]
  have normalised : latestPrefixes? steps 0 = some ["Kategorie:", "Category:"] := rfl
  obtain ⟨stored, kept, resolved, -, -, -, -, alike⟩ :=
    output_default_eq_iff present quiet normalised
  have category : stored.isCategoryLink = true := by
    rw [resolved]
    decide +kernel
  have also : ((final.reference 0).resolveNow defaultCategoryPrefixes).isCategoryLink = true := by
    decide +kernel
  exact ⟨present, quiet, normalised, stored, kept, category, alike.mpr (category.trans also.symm)⟩

/-- A reference that is stored as a link to a category for its own prefixes is written without
options as a link to a page that is no category, with its content. -/
theorem output_default_of_category :
    let document := blank.run [.declare 0 "ref-infer-page" "yes",
      .newReference [.run "Kategorie:A"], .enter 0 0]
    let final := document.run [.normalise 0 ["Kategorie:"]]
    let reference := final.reference 0
    ∃ stored, reference.resolution = some stored ∧ stored.isCategoryLink = true ∧
      reference.paragraph.isBlank = false ∧
      final.output 0 {} = [.element "btex-link" [("data-page", "Kategorie:A")]
        [.text "Kategorie:A"]] ∧
      final.output 0 {} ≠ reference.outputFor final.label {} stored := by
  intro document final reference
  have shown : final.output 0 {} = [.element "btex-link" [("data-page", "Kategorie:A")]
      [.text "Kategorie:A"]] := rfl
  have asStored : reference.outputFor final.label {}
      (.lookup ⟨none, some "Kategorie:A", true, true, true⟩) = [.element "btex-link"
        [("data-page", "Kategorie:A"), ("data-is-category", "True")] []] := rfl
  refine ⟨.lookup ⟨none, some "Kategorie:A", true, true, true⟩, ?_, rfl, ?_, shown, ?_⟩
  · decide +kernel
  · decide +kernel
  · rw [shown, asStored]
    simp

end Document

end CrossRef
