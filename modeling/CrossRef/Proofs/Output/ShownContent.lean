import CrossRef.Proofs.Output.Form

/-!
Shown content: the output of a reference holds the content that its resolution shows, whole and
once, in the span of the reference or not, and there is at most one link around it.
-/

namespace CrossRef

/-- The content that a resolution shows: that of the label, or that of the reference itself at an
external address and in a link to a page that is no category, unless it is blank. -/
def Resolution.shown (labels : LabelId → Label) (own : Paragraph) : Resolution → Paragraph
  | .target label _ => (labels label).paragraph
  | .externalUrl _ => own
  | .lookup query =>
    if query.isLinked = true ∧ query.isCategory = false ∧ own.isBlank = false then own else {}

/-- The form of a resolution shows what the resolution shows. -/
theorem Resolution.shown_form (labels : LabelId → Label) (own : Paragraph)
    (resolution : Resolution) :
    (resolution.form own.isBlank).shown labels own = resolution.shown labels own := by
  cases resolution with
  | target label isLinked => cases isLinked <;> rfl
  | externalUrl url => rfl
  | lookup query =>
      rw [form, shown]
      by_cases linked : query.isLinked
      · by_cases blank : own.isBlank
        · simp [linked, blank, Form.shown]
        · by_cases category : query.isCategory
          · simp [linked, blank, category, Form.shown]
          · simp [linked, blank, category, Form.shown]
      · simp [linked, Form.shown]

/-- Only a label that is not linked is written as its content alone. -/
theorem Resolution.eq_of_form_eq_labelContent {resolution : Resolution} {isBlank : Bool}
    {label : LabelId} (alone : resolution.form isBlank = .labelContent label) :
    resolution = .target label false := by
  cases resolution with
  | target other isLinked =>
      cases isLinked with
      | false =>
          injection alone with same
          rw [same]
      | true => cases alone
  | externalUrl url => cases alone
  | lookup query =>
      rw [form] at alone
      split at alone
      · split at alone
        · cases alone
        · split at alone <;> cases alone
      · cases alone

namespace Reference

/-- The output of a reference has the outline of the content that the form shows, in the span of
the reference or not. -/
theorem outlineOfList_output (labels : LabelId → Label) (presentation : Presentation)
    (reference : Reference) :
    Node.outlineOfList (reference.output labels presentation) =
      let resolution := reference.resolve presentation.categoryPrefixes
      let inner := Inline.outlineOfList presentation
        (resolution.shown labels reference.paragraph).content
      if (reference.form presentation.categoryPrefixes).isFramed then
        [.span (reference.binding.style.attributes presentation) inner]
      else inner := by
  rw [output_eq, Form.outlineOfList_output, form, Resolution.shown_form]

/-- The output of a reference holds the text of the content that the resolution shows. -/
theorem plainTextOfList_output (labels : LabelId → Label) (presentation : Presentation)
    (reference : Reference) :
    Node.plainTextOfList (reference.output labels presentation) =
      ((reference.resolve presentation.categoryPrefixes).shown labels
        reference.paragraph).text := by
  rw [← Node.plainTextOfList_outlineOfList, outlineOfList_output]
  split
  · -- The span around the content adds no text.
    change Outline.plainTextOfList (Inline.outlineOfList _ _) ++ "" = _
    rw [String.append_empty, Inline.plainTextOfList_outlineOfList, Paragraph.text]
  · exact Inline.plainTextOfList_outlineOfList _ _

/-! Main result. -/

/-- Whatever the state of a reference, its output holds the text of the label, or its own text at
an external address and in a link to a page that is no category and not blank, and no text
otherwise. There is at most one link. The texts and spans of the output are those of the content
that is shown, in the same order and nesting, with nothing around them but the span of the
reference. The output has one root, unless it is the content of a label alone. -/
theorem output_showsContent (labels : LabelId → Label) (presentation : Presentation)
    (reference : Reference) :
    let resolution := reference.resolve presentation.categoryPrefixes
    let output := reference.output labels presentation
    let inner := Inline.outlineOfList presentation
      (resolution.shown labels reference.paragraph).content
    Node.plainTextOfList output =
      (match resolution with
      | .target label _ => (labels label).paragraph.text
      | .externalUrl _ => reference.paragraph.text
      | .lookup query =>
        if query.isLinked = true ∧ query.isCategory = false ∧
            reference.paragraph.isBlank = false then reference.paragraph.text
        else "") ∧
    Node.linkCount output ≤ 1 ∧
    (Node.outlineOfList output =
      if (reference.form presentation.categoryPrefixes).isFramed then
        [.span (reference.binding.style.attributes presentation) inner]
      else inner) ∧
    ((∃ tag attributes children, output = [.element tag attributes children]) ∨
      ∃ label, resolution = .target label false) := by
  intro resolution output inner
  refine ⟨?_, ?_, outlineOfList_output labels presentation reference, ?_⟩
  · have held : Node.plainTextOfList output =
        (resolution.shown labels reference.paragraph).text :=
      plainTextOfList_output labels presentation reference
    rw [held]
    cases resolution with
    | target label isLinked => rfl
    | externalUrl url => rfl
    | lookup query => exact apply_ite Paragraph.text _ _ _
  · have counted : Node.linkCount output =
        if (reference.form presentation.categoryPrefixes).isLink then 1 else 0 :=
      linkCount_output labels presentation reference
    rw [counted]
    split <;> decide
  · have rooted := (reference.form presentation.categoryPrefixes).exists_root_or_labelContent
      labels presentation reference.binding.style (reference.paragraph.toNodes presentation)
    rw [← output_eq] at rooted
    apply rooted.imp_right
    rintro ⟨label, alone⟩
    exact ⟨label, Resolution.eq_of_form_eq_labelContent alone⟩

end Reference

end CrossRef
