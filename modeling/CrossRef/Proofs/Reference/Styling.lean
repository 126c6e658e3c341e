import CrossRef.Proofs.Output.Form
import CrossRef.Proofs.Reference.Normalised

/-!
Styling: how the text of a reference is split into runs and spans decides nothing but how the
content itself is written. Two references with one text point at the same thing and are written in
the same form.
-/

namespace CrossRef

namespace Paragraph

/-- Paragraphs of one text are blank together. -/
theorem isBlank_of_text_eq {first second : Paragraph} (sameText : first.text = second.text) :
    first.isBlank = second.isBlank := by
  rw [Bool.eq_iff_iff, isBlank_iff_visible, isBlank_iff_visible, sameText]

/-- Paragraphs of one text have the same edges. -/
theorem edges_of_text_eq {first second : Paragraph} (sameText : first.text = second.text) :
    first.edges = second.edges := by
  rw [edges, edges, sameText]

end Paragraph

namespace Reference

variable {first second : Reference}

/-- References with one text and the same binding are bound alike when they are normalised. -/
theorem namedBinding_of_text_eq (sameBinding : first.binding = second.binding)
    (sameText : first.paragraph.text = second.paragraph.text) :
    first.namedBinding = second.namedBinding := by
  have sameCollapse : Text.collapse first.paragraph.text.toList =
      Text.collapse second.paragraph.text.toList := by rw [sameText]
  rw [namedBinding, namedBinding, sameBinding, Paragraph.edges_of_text_eq sameText,
    Paragraph.pageName_congr sameCollapse]

/-- The binding and the target decide what a reference resolves to. -/
theorem resolveNow_congr (sameBinding : first.binding = second.binding)
    (sameTarget : first.target = second.target) (categoryPrefixes : List String) :
    first.resolveNow categoryPrefixes = second.resolveNow categoryPrefixes := by
  unfold resolveNow resolveNow.lookupOf isCategory
  rw [sameBinding, sameTarget]

/-- References that differ in how one text is split differ in their content alone when they are
normalised. -/
theorem normalise_of_text_eq (sameBinding : first.binding = second.binding)
    (sameTarget : first.target = second.target)
    (sameText : first.paragraph.text = second.paragraph.text) (categoryPrefixes : List String) :
    { first.normalise categoryPrefixes with paragraph := second.paragraph.tidied } =
      second.normalise categoryPrefixes := by
  have bindings := namedBinding_of_text_eq sameBinding sameText
  have resolutions := @resolveNow_congr { first with binding := first.namedBinding }
    { second with binding := second.namedBinding } bindings sameTarget categoryPrefixes
  rw [normalise_eq, normalise_eq, resolutions, bindings, sameTarget,
    Paragraph.edges_of_text_eq sameText]

/-! Main result. -/

/-- Two references with the same binding and target and with one text, split into runs and spans in
any two ways, have the same edges, page and resolution when they are normalised for the same
prefixes, their contents are blank together, and for all prefixes they resolve to the same and are
written in the same form, each with its own content. -/
theorem normalise_ignoresStyling (sameBinding : first.binding = second.binding)
    (sameTarget : first.target = second.target)
    (sameText : first.paragraph.text = second.paragraph.text) (categoryPrefixes : List String) :
    let one := first.normalise categoryPrefixes
    let other := second.normalise categoryPrefixes
    one.edges = other.edges ∧ one.binding = other.binding ∧ one.resolution = other.resolution ∧
    one.paragraph.isBlank = other.paragraph.isBlank ∧
    (∀ prefixes, one.resolve prefixes = other.resolve prefixes) ∧
    ∀ presentation, ∃ form : Form, ∀ labels,
      one.output labels presentation =
        form.output labels presentation one.binding.style
          (one.paragraph.toNodes presentation) ∧
      other.output labels presentation =
        form.output labels presentation other.binding.style
          (other.paragraph.toNodes presentation) := by
  intro one other
  have whole : { one with paragraph := second.paragraph.tidied } = other :=
    normalise_of_text_eq sameBinding sameTarget sameText categoryPrefixes
  have blank : one.paragraph.isBlank = other.paragraph.isBlank := by
    simp only [one, other, normalise_eq, Paragraph.isBlank_tidied]
    exact Paragraph.isBlank_of_text_eq sameText
  have resolved (prefixes : List String) : one.resolve prefixes = other.resolve prefixes := by
    rw [← whole]
    rfl
  have formed (prefixes : List String) : one.form prefixes = other.form prefixes := by
    rw [form, form, resolved, blank]
  refine ⟨by rw [← whole], by rw [← whole], by rw [← whole], blank, resolved, ?_⟩
  intro presentation
  refine ⟨one.form presentation.categoryPrefixes, fun labels => ⟨output_eq .., ?_⟩⟩
  rw [formed]
  exact output_eq ..

/-- A scope that asks for the page to be inferred. -/
def inferringScope : ScopeChain :=
  [[("ref-infer-page", "true")]]

/-- White space inside a span is not collapsed, and the page is that of the unstyled text. -/
theorem normalise_ignoresStyling_spans :
    let plain := ({ paragraph := .ofText "α  β" } : Reference).enter inferringScope
    let styled := ({ paragraph := ⟨[.run "α", .span {} [.run "  ", .span {} [.run "β"]]]⟩ } :
      Reference).enter inferringScope
    plain.binding = styled.binding ∧ plain.target = styled.target ∧
      plain.paragraph.text = styled.paragraph.text ∧
      (plain.normalise []).paragraph.text ≠ (styled.normalise []).paragraph.text ∧
      (plain.normalise []).binding.page = some "alpha beta" ∧
      (styled.normalise []).binding.page = some "alpha beta" := by
  intro plain styled
  have sameText : plain.paragraph.text = styled.paragraph.text := by decide
  have named : (plain.normalise []).binding.page = some "alpha beta" := by decide +kernel
  have agree := @normalise_ignoresStyling plain styled rfl rfl sameText []
  refine ⟨rfl, rfl, sameText, by decide +kernel, named, ?_⟩
  rw [← agree.2.1]
  exact named

end Reference

end CrossRef
