import CrossRef.Proofs.Document.Run
import CrossRef.Proofs.PageName.BlankContent
import CrossRef.Proofs.Reference.Resolution
import CrossRef.Report.PageName
import CrossRef.Report.Reference

/-!
The page of a reference that infers it: what a request declares in scopes reaches the reference
unchanged, and the report names the same page as the report on the page name of the text alone.
-/

namespace CrossRef

namespace ReferenceRequest

/-- What a request declares, seen from the scope of the reference. -/
def chain (request : ReferenceRequest) : ScopeChain :=
  [Entries.ofList request.ownAttributes, Entries.ofList request.outerAttributes]

/-- The reference of a request when it has been entered in its scope. -/
def bound (request : ReferenceRequest) : Reference :=
  ({ paragraph := .ofText request.text } : Reference).enter request.chain

/-- The declarations come before the reference is entered, so that it takes over all of them. -/
theorem run_bindingSteps (request : ReferenceRequest) :
    Document.blank.run request.bindingSteps =
      { scopes := [⟨0, [0], Entries.ofList request.outerAttributes⟩,
          ⟨0, [1, 0], Entries.ofList request.ownAttributes⟩]
        trees := [⟨request.chain.admission.url?.toList, [0]⟩]
        nodes := [request.bound]
        labels := [] } := by
  rw [bindingSteps, Document.run_append, Document.run_append, Document.run_append,
    Document.run_declare, Document.run_declare]
  rfl

/-- The reference of the document has the binding that normalising gives it: a label that it is
aimed at later does not change it. -/
theorem binding_document (request : ReferenceRequest) (categoryPrefixes : List String) :
    ((request.document categoryPrefixes).reference 0).binding =
      (request.bound.normalise categoryPrefixes).binding := by
  rw [document, Document.run_append, run_bindingSteps, normalisingSteps]
  cases request.bookmark with
  | none => rfl
  | some bookmark =>
      change ((request.bound.normalise categoryPrefixes).setTarget (some 0)).binding = _
      rw [Reference.setTarget_eq]

/-! The attributes of the reference. -/

/-- The attributes of the reference have different names. -/
theorem nodup_ownAttributes (request : ReferenceRequest) :
    (Entries.names request.ownAttributes).Nodup := by
  have optional (value : Option String) (name : String) :
      ((value.map ((name, ·))).toList.map Prod.fst).Sublist [name] := by
    cases value <;> simp
  have flag (set : Bool) (name : String) :
      ((if set then [(name, "true")] else []).map Prod.fst).Sublist [name] := by
    cases set <;> simp
  have among : (Entries.names request.ownAttributes).Sublist
      (["ref-page"] ++ ["ref-key"] ++ ["ref-url"] ++ ["ref-page-suffix"] ++ ["ref-infer-page"] ++
        ["ref-no-link"]) := by
    simp only [ownAttributes, Entries.names, List.map_append]
    exact (((((optional _ _).append (optional _ _)).append (optional _ _)).append
      (optional _ _)).append (flag _ _)).append (flag _ _)
  exact List.Nodup.sublist among (by decide)

/-- The scope of the reference holds its attributes. -/
theorem get?_chain (request : ReferenceRequest) (name : String) :
    request.chain.get? name true = request.ownAttributes.lookup name := by
  rw [chain, Entries.ofList_of_nodup request.nodup_ownAttributes]
  rfl

/-- An optional attribute is found under its own name, if it has a value. -/
theorem lookup_optional (value : Option String) (name other : String) :
    ((value.map ((name, ·))).toList).lookup other = if other = name then value else none := by
  cases value <;> simp

/-- A flag is found under its own name, if it is set. -/
theorem lookup_flag (set : Bool) (name other : String) :
    (if set then [(name, "true")] else []).lookup other =
      if other = name ∧ set then some "true" else none := by
  cases set <;> simp

/-- The suffix reaches the reference. -/
theorem pageSuffix_bound (request : ReferenceRequest) :
    request.bound.binding.pageSuffix = request.suffix := by
  change request.chain.get? "ref-page-suffix" true = _
  rw [get?_chain, ownAttributes]
  simp [List.lookup_append, lookup_optional, lookup_flag]

/-- That the page is inferred reaches the reference. -/
theorem infersPage_bound {request : ReferenceRequest} (infers : request.infersPage = true) :
    request.bound.binding.infersPage = true := by
  have declared : request.chain.get? "ref-infer-page" true = some "true" := by
    rw [get?_chain, ownAttributes]
    simp [List.lookup_append, lookup_optional, infers]
  change request.chain.boolean "ref-infer-page" false true = _
  rw [ScopeChain.boolean, declared]
  rfl

end ReferenceRequest

namespace Report

/-- The report on a reference that infers its page and the report on the page name of its text
name the same page, for all settings that load. -/
theorem inferredPage_agrees {request : ReferenceRequest} (infers : request.infersPage = true)
    {home : SettingsHome} {settings : Settings} (loads : Settings.load home = .ok settings) :
    ∃ (report : Report) (page : String), reference request home = .ok report ∧
      Entries.get? report.output "page" = some (.string page) ∧
      Entries.get? (ofPageName request.text request.suffix).output "page" =
        some (.string page) := by
  have inferred : ((request.document settings.categoryPrefixes).reference 0).binding.page =
      some ((Paragraph.ofText request.text).normalised.pageName request.suffix
        (Paragraph.ofText request.text).normalised.edges.last) := by
    rw [request.binding_document,
      Reference.page_normalise (ReferenceRequest.infersPage_bound infers),
      request.pageSuffix_bound]
    rfl
  refine ⟨ofReference request settings, _, ?_, ?_, rfl⟩
  · rw [reference, loads]
  · change some (Json.ofString? _) = _
    rw [inferred]
    rfl

/-- A request with blank content, a page of its own, a suffix and a label. -/
def blankRequest : ReferenceRequest where
  text := " \t"
  page := some "Other"
  suffix := some "α"
  infersPage := true
  bookmark := some "top"

/-- Blank content is left as it is by the one report and collapsed by the other, and both name the
page of the suffix. -/
theorem inferredPage_agrees_blank :
    blankRequest.infersPage = true ∧
      Settings.load { path := "/home/user" } = .ok {} ∧
      ∃ (report : Report) (page : String),
        reference blankRequest { path := "/home/user" } = .ok report ∧
        Entries.get? report.output "page" = some (.string page) ∧
        Entries.get? (ofPageName blankRequest.text blankRequest.suffix).output "page" =
          some (.string page) :=
  ⟨rfl, rfl, inferredPage_agrees rfl rfl⟩

end Report

end CrossRef
