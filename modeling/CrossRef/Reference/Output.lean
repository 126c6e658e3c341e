import CrossRef.Output.Html
import CrossRef.Reference.Basic
import CrossRef.Text.Percent

/-!
The output of a reference: a link around the content that it shows, with the data for the pages
that are looked up later.
-/

namespace CrossRef.Reference

/-- Key and page of a query as attributes; an empty one is left out. -/
def queryAttributes (query : Query) : Attributes :=
  let named (name : String) : Option String → Attributes
    | some value => if value.isEmpty then [] else [(name, value)]
    | none => []
  named "data-key" query.key ++ named "data-page" query.page

/-- The address of a bookmark in the same document. -/
def bookmarkAddress (bookmark : String) : String :=
  "#" ++ Text.percentEncoded bookmark

/-- The output for one resolution. Labels are found by number. A label that is not linked shows
its content alone. A linked page shows the content of the reference, or the place where its title
will stand when there is no content; a category shows nothing. -/
def outputFor (labels : LabelId → Label) (presentation : Presentation) (reference : Reference) :
    Resolution → List Node
  | .target label isLinked =>
    let content := (labels label).paragraph.toNodes presentation
    if isLinked then
      [styled [.element "a" [("href", bookmarkAddress (labels label).bookmark)] content]]
    else content
  | .externalUrl url =>
    [styled [.element "a" [("class", "external"), ("href", url)]
      (reference.paragraph.toNodes presentation)]]
  | .lookup query =>
    let place := styled [.element "btex-ref" (queryAttributes query) []]
    if query.isLinked then
      let category := if query.isCategory then [("data-is-category", "True")] else []
      let content :=
        if reference.paragraph.isBlank then [place]
        else if query.isCategory then []
        else reference.paragraph.toNodes presentation
      [.element "btex-link" (queryAttributes query ++ category) content]
    else [place]
where
  /-- The span that carries the style of the reference. -/
  styled (children : List Node) : Node :=
    .element "span" (reference.binding.style.attributes presentation) children

/-- The output of a reference, resolved for the prefixes of the presentation. -/
def output (labels : LabelId → Label) (presentation : Presentation) (reference : Reference) :
    List Node :=
  outputFor labels presentation reference (reference.resolve presentation.categoryPrefixes)

end CrossRef.Reference
