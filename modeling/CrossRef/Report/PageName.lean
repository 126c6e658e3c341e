import CrossRef.Content.PageName
import CrossRef.Report.Basic
import CrossRef.Text.Quoted

/-!
The report on the page name of a text.
-/

namespace CrossRef.Report

/-- The edges of content as data. -/
def edgesJson (edges : Edges) : Json :=
  .object [("first", .string edges.first.name), ("last", .string edges.last.name)]

/-- The text is normalised, and its page name is taken with the suffix. An empty name is no
success. -/
def ofPageName (text : String) (suffix : Option String) : Report :=
  let paragraph := (Paragraph.ofText text).normalised
  let edges := paragraph.edges
  let page := paragraph.pageName suffix edges.last
  { announcement := "Inferring page identifier for " ++ Text.quoted text ++ "..."
    progress :=
      [(0.3, "Normalising content..."), (0.7, "Inferring page identifier..."), (1.0, "Complete")]
    result :=
      if page.isEmpty then "Inferred an empty page identifier"
      else "Inferred page " ++ Text.quoted page
    output :=
      [("text", .string text), ("suffix", .ofString? suffix), ("spacing", edgesJson edges),
       ("page", .string page)]
    success := !page.isEmpty }

end CrossRef.Report
