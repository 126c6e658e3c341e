import CrossRef.Proofs.Output.Outline

/-!
Forms: the ways in which a reference is written. A form is chosen by the resolution and by whether
the content is blank, and it says which content is shown, what stands around it, and whether that
is a link.
-/

namespace CrossRef

/-- A reference is written as one of seven forms: the content of a label, alone or in a link to its
bookmark; its own content in a link to an address; the place of a title, alone or in a link to a
page; and a link to a page without content, or with the content of the reference. -/
inductive Form
  | labelContent (label : LabelId)
  | bookmarkLink (label : LabelId)
  | addressLink (url : String)
  | titlePlace (query : Query)
  | titleLink (query : Query)
  | categoryLink (query : Query)
  | pageLink (query : Query)

/-- The form that a resolution takes, for a reference that is blank or not. -/
def Resolution.form (isBlank : Bool) : Resolution → Form
  | .target label isLinked => if isLinked then .bookmarkLink label else .labelContent label
  | .externalUrl url => .addressLink url
  | .lookup query =>
    if query.isLinked then
      if isBlank then .titleLink query
      else if query.isCategory then .categoryLink query
      else .pageLink query
    else .titlePlace query

namespace Form

/-- The span of a reference around what it holds. -/
def framed (presentation : Presentation) (style : Style) (children : List Node) : Node :=
  .element "span" (style.attributes presentation) children

/-- The place where the title of a page will stand. -/
def place (presentation : Presentation) (style : Style) (query : Query) : Node :=
  framed presentation style [.element "btex-ref" (Reference.queryAttributes query) []]

/-- The link to a page. -/
def pageElement (query : Query) (children : List Node) : Node :=
  .element "btex-link"
    (Reference.queryAttributes query ++
      if query.isCategory then [("data-is-category", "True")] else []) children

/-- What is written in a form. Only the form decides what stands around the content, which is that
of a label or the own content of the reference. -/
def output (labels : LabelId → Label) (presentation : Presentation) (style : Style)
    (own : List Node) : Form → List Node
  | labelContent label => (labels label).paragraph.toNodes presentation
  | bookmarkLink label =>
    [framed presentation style [.element "a"
      [("href", Reference.bookmarkAddress (labels label).bookmark)]
      ((labels label).paragraph.toNodes presentation)]]
  | addressLink url =>
    [framed presentation style [.element "a" [("class", "external"), ("href", url)] own]]
  | titlePlace query => [place presentation style query]
  | titleLink query => [pageElement query [place presentation style query]]
  | categoryLink query => [pageElement query []]
  | pageLink query => [pageElement query own]

/-- The content that a form shows, given that of the reference. -/
def shown (labels : LabelId → Label) (own : Paragraph) : Form → Paragraph
  | labelContent label | bookmarkLink label => (labels label).paragraph
  | addressLink _ | pageLink _ => own
  | titlePlace _ | titleLink _ | categoryLink _ => {}

/-- Whether the span of the reference is written. -/
def isFramed : Form → Bool
  | bookmarkLink _ | addressLink _ | titlePlace _ | titleLink _ => true
  | labelContent _ | categoryLink _ | pageLink _ => false

/-- Whether a link is written. -/
def isLink : Form → Bool
  | bookmarkLink _ | addressLink _ | titleLink _ | categoryLink _ | pageLink _ => true
  | labelContent _ | titlePlace _ => false

/-- Only the content of a label alone has no root. -/
theorem exists_root_or_labelContent (labels : LabelId → Label) (presentation : Presentation)
    (style : Style) (own : List Node) (form : Form) :
    (∃ tag attributes children,
      form.output labels presentation style own = [.element tag attributes children]) ∨
    ∃ label, form = .labelContent label := by
  cases form with
  | labelContent label => exact Or.inr ⟨label, rfl⟩
  | bookmarkLink | addressLink | titlePlace | titleLink | categoryLink | pageLink =>
      exact Or.inl ⟨_, _, _, rfl⟩

/-- The outline of a form is that of the content it shows, in the span of the reference or not. -/
theorem outlineOfList_output (labels : LabelId → Label) (presentation : Presentation)
    (style : Style) (own : Paragraph) (form : Form) :
    Node.outlineOfList (form.output labels presentation style (own.toNodes presentation)) =
      let inner := Inline.outlineOfList presentation (form.shown labels own).content
      if form.isFramed then [.span (style.attributes presentation) inner] else inner := by
  cases form with
  | labelContent label => exact Paragraph.outlineOfList_toNodes _ _
  | bookmarkLink label | addressLink url | pageLink query =>
      simp [output, framed, pageElement, shown, isFramed, Node.outlineOfList, Node.outline,
        Paragraph.outlineOfList_toNodes]
  | titlePlace query | titleLink query | categoryLink query => rfl

end Form

/-! Links. -/

/-- The elements that a reader may follow. -/
def Head.isLink (head : Head) : Bool :=
  head.tag == "a" || head.tag == "btex-link"

/-- How many links there are in several nodes, at any depth. -/
def Node.linkCount (nodes : List Node) : Nat :=
  (Node.headsOfList nodes).countP Head.isLink

/-- There is a link when an element has one of the two tags of links. -/
theorem Node.linkCount_pos_iff (nodes : List Node) :
    0 < Node.linkCount nodes ↔
      ∃ head ∈ Node.headsOfList nodes, head.tag = "a" ∨ head.tag = "btex-link" := by
  simp [Node.linkCount, List.countP_pos_iff, Head.isLink]

/-- No link stands in the content of a paragraph. -/
theorem Paragraph.linkCount_toNodes (presentation : Presentation) (paragraph : Paragraph) :
    Node.linkCount (paragraph.toNodes presentation) = 0 := by
  apply List.countP_eq_zero.mpr
  intro head member
  obtain ⟨style, rfl⟩ := Inline.exists_style_of_mem_headsOfList presentation _ member
  simp [Style.head, Head.isLink]

namespace Form

/-- A form writes one link or none. -/
theorem linkCount_output (labels : LabelId → Label) (presentation : Presentation)
    (style : Style) (own : Paragraph) (form : Form) :
    Node.linkCount (form.output labels presentation style (own.toNodes presentation)) =
      if form.isLink then 1 else 0 := by
  have none (paragraph : Paragraph) := paragraph.linkCount_toNodes presentation
  unfold Node.linkCount at none ⊢
  cases form with
  | labelContent label => exact none _
  | bookmarkLink label | addressLink url | pageLink query =>
      simp [output, framed, pageElement, isLink, Node.heads, Head.isLink, none]
  | titlePlace query | titleLink query | categoryLink query => rfl

end Form

namespace Reference

/-- The form that a reference takes for some prefixes. -/
def form (reference : Reference) (categoryPrefixes : List String) : Form :=
  (reference.resolve categoryPrefixes).form reference.paragraph.isBlank

/-- What is written for a resolution is what is written in its form. -/
theorem outputFor_eq (labels : LabelId → Label) (presentation : Presentation)
    (reference : Reference) (resolution : Resolution) :
    outputFor labels presentation reference resolution =
      (resolution.form reference.paragraph.isBlank).output labels presentation
        reference.binding.style (reference.paragraph.toNodes presentation) := by
  cases resolution with
  | target label isLinked => cases isLinked <;> rfl
  | externalUrl url => rfl
  | lookup query =>
      rw [outputFor, Resolution.form]
      by_cases linked : query.isLinked
      · rw [if_pos linked, if_pos linked]
        by_cases blank : reference.paragraph.isBlank
        · rw [if_pos blank, if_pos blank]
          rfl
        · rw [if_neg blank, if_neg blank]
          by_cases category : query.isCategory
          · simp [Form.output, Form.pageElement, category]
          · simp [Form.output, Form.pageElement, category]
      · rw [if_neg linked, if_neg linked]
        rfl

/-- A reference is written in its form. -/
theorem output_eq (labels : LabelId → Label) (presentation : Presentation)
    (reference : Reference) :
    reference.output labels presentation =
      (reference.form presentation.categoryPrefixes).output labels presentation
        reference.binding.style (reference.paragraph.toNodes presentation) :=
  outputFor_eq labels presentation reference _

/-- A reference is written with one link or none. -/
theorem linkCount_output (labels : LabelId → Label) (presentation : Presentation)
    (reference : Reference) :
    Node.linkCount (reference.output labels presentation) =
      if (reference.form presentation.categoryPrefixes).isLink then 1 else 0 := by
  rw [output_eq, Form.linkCount_output]

end Reference

end CrossRef
