import CrossRef.Proofs.PageName.CollapsedContent
import CrossRef.Proofs.Reference.Resolution
import CrossRef.Proofs.Text.Composition.Idempotence

/-!
Normalised references: what normalising makes of a reference depends on its text, its binding and
its target alone, so it makes no difference how often a reference is normalised, and whether it is
given its target before or after that.
-/

namespace CrossRef

namespace Paragraph

/-- The content that normalising leaves: blank content stays as it is. -/
def tidied (paragraph : Paragraph) : Paragraph :=
  if paragraph.isBlank then paragraph else paragraph.normalised

/-- Tidied content is as blank as before. -/
@[simp] theorem isBlank_tidied (paragraph : Paragraph) :
    paragraph.tidied.isBlank = paragraph.isBlank := by
  unfold tidied
  split
  · rfl
  · exact paragraph.isBlank_normalised_eq

/-- Tidied content has the edges that it had before. -/
@[simp] theorem edges_tidied (paragraph : Paragraph) :
    paragraph.tidied.edges = paragraph.edges := by
  unfold tidied
  split
  · rfl
  · exact paragraph.edges_normalised

/-- Tidied content has a text that collapses to the same as before. -/
theorem collapse_text_tidied (paragraph : Paragraph) :
    Text.collapse paragraph.tidied.text.toList = Text.collapse paragraph.text.toList := by
  unfold tidied
  split
  · rfl
  · exact paragraph.collapse_text_normalised

/-- Tidied content has the page name that it had before. -/
@[simp] theorem pageName_tidied (paragraph : Paragraph) (suffix : Option String)
    (edge : EdgeKind) : paragraph.tidied.pageName suffix edge = paragraph.pageName suffix edge :=
  pageName_congr paragraph.collapse_text_tidied suffix edge

/-- Tidied content stays as it is. -/
@[simp] theorem tidied_tidied (paragraph : Paragraph) :
    paragraph.tidied.tidied = paragraph.tidied := by
  rw [tidied, isBlank_tidied]
  unfold tidied
  split
  · rfl
  · exact paragraph.normalised_normalised

end Paragraph

namespace Reference

/-- The binding that normalising leaves: a page to be inferred is the name of the content, a page
that is given is composed, and the rest stays as it is. -/
def namedBinding (reference : Reference) : Binding :=
  { reference.binding with
    page :=
      if reference.binding.infersPage then
        some (reference.paragraph.pageName reference.binding.pageSuffix
          reference.paragraph.edges.last)
      else reference.binding.page.map Text.composed }

/-- Content is tidied, and the edges are those of the content, blank or not. -/
theorem normaliseContent_eq (reference : Reference) :
    reference.normaliseContent =
      { reference with
        paragraph := reference.paragraph.tidied, edges := some reference.paragraph.edges } := by
  rw [normaliseContent, Paragraph.tidied]
  split
  · next blank => rw [Paragraph.edges_of_isBlank blank]
  · rw [← Paragraph.edges_normalised]

/-- The page of a reference is found from its tidied content as from its content. -/
theorem normalisePage_normaliseContent (reference : Reference) :
    reference.normaliseContent.normalisePage =
      { reference with
        paragraph := reference.paragraph.tidied, binding := reference.namedBinding
        edges := some reference.paragraph.edges } := by
  rw [normaliseContent_eq]
  simp only [normalisePage, namedBinding, Paragraph.pageName_tidied]
  rfl

/-- Normalising tidies the content, finds its edges and the page, and resolves the reference with
this page for the prefixes. -/
theorem normalise_eq (reference : Reference) (categoryPrefixes : List String) :
    reference.normalise categoryPrefixes =
      { paragraph := reference.paragraph.tidied
        binding := reference.namedBinding
        edges := some reference.paragraph.edges
        target := reference.target
        categoryPrefixes := categoryPrefixes
        resolution := some (({ reference with binding := reference.namedBinding } :
          Reference).resolveNow categoryPrefixes) } := by
  rw [normalise, normalisePage_normaliseContent]
  rfl

/-- Normalising once more finds the same binding. -/
theorem namedBinding_normalise (reference : Reference) (categoryPrefixes : List String) :
    (reference.normalise categoryPrefixes).namedBinding = reference.namedBinding := by
  have again : (reference.binding.page.map Text.composed).map Text.composed =
      reference.binding.page.map Text.composed := by
    cases reference.binding.page with
    | none => rfl
    | some page => exact congrArg some (Text.isComposed_composed page)
  rw [normalise_eq, namedBinding, namedBinding]
  cases reference.binding.infersPage with
  | true => simp only [if_true, Paragraph.pageName_tidied, Paragraph.edges_tidied]
  | false => simp only [Bool.false_eq_true, if_false, again]

/-- Only the last normalising counts. -/
theorem normalise_normalise (reference : Reference) (earlier categoryPrefixes : List String) :
    (reference.normalise earlier).normalise categoryPrefixes =
      reference.normalise categoryPrefixes := by
  have binding := reference.namedBinding_normalise earlier
  rw [normalise_eq, binding]
  simp only [normalise_eq, Paragraph.tidied_tidied, Paragraph.edges_tidied]
  rfl

/-- Only the last target counts. -/
theorem setTarget_setTarget (reference : Reference) (earlier target : Option LabelId) :
    (reference.setTarget earlier).setTarget target = reference.setTarget target := by
  simp only [setTarget_eq, Option.map_map]
  rfl

/-- A reference may be given its target before it is normalised or after that. -/
theorem setTarget_normalise (reference : Reference) (categoryPrefixes : List String)
    (target : Option LabelId) :
    (reference.normalise categoryPrefixes).setTarget target =
      (reference.setTarget target).normalise categoryPrefixes := by
  rw [setTarget_eq, setTarget_eq, normalise_eq, normalise_eq]
  rfl

/-- A reference that was given its target already may be given it again. -/
theorem setTarget_self {reference : Reference} (current : reference.IsCurrent) :
    reference.setTarget reference.target = reference := by
  rw [setTarget_eq]
  cases stored : reference.resolution with
  | none => rw [Option.map_none, ← stored]
  | some resolution =>
      change { reference with
        resolution := some (reference.resolveNow reference.categoryPrefixes) } = reference
      rw [← current resolution stored, ← stored]

/-- A target that is taken back leaves a reference without a target as it was normalised. -/
theorem setTarget_none_normalise {reference : Reference} (aimless : reference.target = none)
    (categoryPrefixes : List String) (target : Option LabelId) :
    ((reference.normalise categoryPrefixes).setTarget target).setTarget none =
      reference.normalise categoryPrefixes := by
  have still : (reference.normalise categoryPrefixes).target = none := by
    rw [normalise_eq]
    exact aimless
  have again := setTarget_self (reference.isCurrent_normalise categoryPrefixes)
  rw [still] at again
  rw [setTarget_setTarget, again]

end Reference

end CrossRef
