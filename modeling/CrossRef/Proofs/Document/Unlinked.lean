import CrossRef.Proofs.Document.Resolution
import CrossRef.Proofs.Output.Form
import CrossRef.Proofs.Reference.Normalised

/-!
References without links: a reference that is entered in a scope that declares it unlinked is
written without a link when it resolves to a label or to a page. An external address takes no
notice of the declaration.
-/

namespace CrossRef

/-- Only an address that is not empty is accepted. -/
theorem Admission.ne_empty_of_accepted {declared : Option String} {url : String}
    (accepted : ofUrl? declared = .accepted url) : url ≠ "" := by
  cases declared with
  | none => cases accepted
  | some text =>
      rw [ofUrl?] at accepted
      split at accepted
      · cases accepted
      · next filled =>
          split at accepted
          · injection accepted with same
            rw [← same]
            simpa using filled
          · cases accepted

namespace Reference

/-- An unlinked reference resolves to something that is written as a link exactly when it has no
target and an address of its own. -/
theorem isLink_form_of_isUnlinked {reference : Reference}
    (unlinked : reference.binding.isUnlinked = true) (isBlank : Bool)
    (categoryPrefixes : List String) :
    ((reference.resolveNow categoryPrefixes).form isBlank).isLink = true ↔
      reference.target = none ∧ ∃ url, reference.binding.url = some url ∧ url ≠ "" := by
  have lookup : ((resolveNow.lookupOf categoryPrefixes reference).form isBlank).isLink =
      false := by
    simp [resolveNow.lookupOf, Resolution.form, unlinked, Form.isLink]
  unfold resolveNow
  cases reference.target with
  | some label => simp [Resolution.form, unlinked, Form.isLink]
  | none =>
      cases reference.binding.url with
      | none => simp [lookup]
      | some url =>
          by_cases empty : url = ""
          · simp [lookup, empty]
          · simp [Resolution.form, Form.isLink, empty]

end Reference

namespace Document

/-- A step that does not enter a reference leaves its address and its links as they are
declared. -/
theorem binding_effect (document : Document) {node : NodeId} {step : Step}
    (quiet : ¬step.Enters node) (reference : Reference) :
    (step.effect document node reference).binding.url = reference.binding.url ∧
      (step.effect document node reference).binding.isUnlinked =
        reference.binding.isUnlinked := by
  rcases effect_cases document quiet reference with
    ⟨categoryPrefixes, -, fresh⟩ | ⟨-, ⟨target, aimed⟩ | ⟨content, added⟩ | kept⟩
  · rw [fresh, Reference.normalise_eq]
    exact ⟨rfl, rfl⟩
  · rw [aimed, Reference.setTarget_eq]
    exact ⟨rfl, rfl⟩
  · rw [added]
    exact ⟨rfl, rfl⟩
  · rw [kept]
    exact ⟨rfl, rfl⟩

/-- While a reference is not entered it keeps its address and whether it is linked, and as soon as
it has been normalised its resolution is current. -/
theorem reference_run_quiet {document : Document} {node : NodeId}
    (present : node < document.nodes.length) {steps : List Step}
    (quiet : ∀ step ∈ steps, ¬step.Enters node) :
    let reference := (document.run steps).reference node
    reference.binding.url = (document.reference node).binding.url ∧
      reference.binding.isUnlinked = (document.reference node).binding.isUnlinked ∧
      ((∃ categoryPrefixes, .normalise node categoryPrefixes ∈ steps) →
        reference.IsCurrent) := by
  apply reference_run_from present (fun steps reference =>
    reference.binding.url = (document.reference node).binding.url ∧
      reference.binding.isUnlinked = (document.reference node).binding.isUnlinked ∧
      ((∃ categoryPrefixes, .normalise node categoryPrefixes ∈ steps) → reference.IsCurrent))
    ⟨rfl, rfl, by simp⟩ ?_ steps quiet
  rintro steps document step reference still ⟨sameUrl, sameFlag, current⟩
  obtain ⟨keepsUrl, keepsFlag⟩ := binding_effect document still reference
  refine ⟨keepsUrl.trans sameUrl, keepsFlag.trans sameFlag, ?_⟩
  rintro ⟨categoryPrefixes, member⟩
  rcases List.mem_append.mp member with before | last
  · exact isCurrent_effect still (current ⟨categoryPrefixes, before⟩)
  · obtain rfl := List.mem_singleton.mp last
    have settles : (Step.normalise node categoryPrefixes).Settles document node := rfl
    exact isCurrent_effect_of_settles settles reference

/-! Main result. -/

/-- Let a reference be entered in a scope that declares it unlinked, and be normalised and aimed
after that, any number of times and between any other steps that do not enter it again. Then its
output has a link, at whatever depth, exactly when it has no target and the scope declares an
address that is accepted. -/
theorem output_isLinked_iff {document : Document} {node : NodeId} {scope : ScopeId}
    (present : node < document.nodes.length)
    (unlinked : (document.chain scope).boolean "ref-no-link" false true = true)
    {steps : List Step} (quiet : ∀ step ∈ steps, ¬step.Enters node)
    (normalised : ∃ categoryPrefixes, .normalise node categoryPrefixes ∈ steps)
    (presentation : Presentation) :
    let final := document.run (.enter node scope :: steps)
    (∃ head ∈ Node.headsOfList (final.output node presentation),
      head.tag = "a" ∨ head.tag = "btex-link") ↔
    (final.reference node).target = none ∧
      ∃ url, (document.chain scope).admission = .accepted url := by
  intro final
  have entered : (document.step (.enter node scope)).reference node =
      (document.reference node).enter (document.chain scope) := by
    rw [reference_step document present, Step.effect, if_pos rfl]
  have still : node < (document.step (.enter node scope)).nodes.length :=
    Nat.lt_of_lt_of_le present (length_nodes_step document _)
  obtain ⟨sameUrl, sameFlag, settled⟩ := reference_run_quiet still quiet
  rw [entered] at sameUrl sameFlag
  change (final.reference node).binding.url = (document.chain scope).admission.url? at sameUrl
  change (final.reference node).binding.isUnlinked = _ at sameFlag
  have current : (final.reference node).IsCurrent := settled normalised
  have bare : (final.reference node).binding.isUnlinked = true := sameFlag.trans unlinked
  have accepted : (∃ url, (final.reference node).binding.url = some url ∧ url ≠ "") ↔
      ∃ url, (document.chain scope).admission = .accepted url := by
    rw [sameUrl]
    cases admitted : (document.chain scope).admission with
    | absent => simp [Admission.url?]
    | rejected url => simp [Admission.url?]
    | accepted url => simp [Admission.url?, Admission.ne_empty_of_accepted admitted]
  rw [← Node.linkCount_pos_iff, output, Reference.linkCount_output, Reference.form,
    current.resolve_eq, ← accepted,
    ← Reference.isLink_form_of_isUnlinked bare (final.reference node).paragraph.isBlank
      presentation.categoryPrefixes]
  split
  · next linked => exact iff_of_true Nat.zero_lt_one linked
  · next bare => exact iff_of_false (Nat.lt_irrefl 0) bare

/-- A reference that is declared unlinked and aimed at a label shows the label without a link,
whatever address and page it has besides. -/
theorem output_isLinked_iff_label :
    let document := blank.run [.declare 0 "ref-no-link" "true", .declare 0 "ref-url" "http://a",
      .newReference [.run "A"], .newLabel "top" [.span {} [.run "Top"]]]
    let steps : List Step := [.normalise 0 [], .aim 0 (some 0)]
    0 < document.nodes.length ∧
      (document.chain 0).boolean "ref-no-link" false true = true ∧
      (∀ step ∈ steps, ¬step.Enters 0) ∧
      (∃ categoryPrefixes, .normalise 0 categoryPrefixes ∈ steps) ∧
      ¬∃ head ∈ Node.headsOfList ((document.run (.enter 0 0 :: steps)).output 0 {}),
        head.tag = "a" ∨ head.tag = "btex-link" := by
  intro document steps
  have present : 0 < document.nodes.length := Nat.zero_lt_one
  have unlinked : (document.chain 0).boolean "ref-no-link" false true = true := by decide
  have quiet : ∀ step ∈ steps, ¬step.Enters 0 := by simp [steps, Step.Enters]
  have normalised : ∃ categoryPrefixes, .normalise 0 categoryPrefixes ∈ steps :=
    ⟨[], List.mem_cons_self⟩
  refine ⟨present, unlinked, quiet, normalised, fun linked => ?_⟩
  obtain ⟨aimless, -⟩ := (output_isLinked_iff present unlinked quiet normalised {}).mp linked
  cases aimless

/-- A reference that is declared unlinked, and only normalised after it was entered, is written with
a link to its external address. -/
theorem output_isLinked_of_address :
    let document := blank.run [.declare 0 "ref-no-link" "true",
      .declare 0 "ref-url" "https://example.com", .newReference [.run "Example"]]
    let final := document.run [.enter 0 0, .normalise 0 defaultCategoryPrefixes]
    (document.chain 0).boolean "ref-no-link" false true = true ∧
      ∃ head ∈ Node.headsOfList (final.output 0 {}), head.tag = "a" ∨ head.tag = "btex-link" := by
  intro document final
  have shown : ⟨"a", [("class", "external"), ("href", "https://example.com")]⟩ ∈
      Node.headsOfList (final.output 0 {}) :=
    List.mem_cons_of_mem _ List.mem_cons_self
  exact ⟨by decide, _, shown, Or.inl rfl⟩

end Document

end CrossRef
