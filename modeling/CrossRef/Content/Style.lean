import CrossRef.Entries
import CrossRef.Number.Format

/-!
Inline styles, and the limits under which they are written into the output.
-/

namespace CrossRef

/-- What a span of content asks for. -/
structure Style where
  italic : Option Bool := none
  bold : Option Bool := none
  size : Option Binary64 := none
  classes : String := ""

/-- The prefixes that mark pages of the category namespace unless others are set. -/
def defaultCategoryPrefixes : List String :=
  ["Category:", "分类:"]

/-- The limits on font sizes, in pixels, and the prefixes of category pages. -/
structure Presentation where
  smallest : Binary64 := 8
  largest : Binary64 := 72
  categoryPrefixes : List String := defaultCategoryPrefixes

namespace Style

/-- The font size after the limits are applied. A size of zero or without bounds counts as none. -/
def shownSize? (style : Style) (presentation : Presentation) : Option Binary64 :=
  match style.size with
  | some size =>
    if size.isFinite && !size.isZero then
      some (size.clamp presentation.smallest presentation.largest)
    else none
  | none => none

/-- The declarations of the style attribute, in a fixed order. -/
def declarations (style : Style) (presentation : Presentation) : List String :=
  (if style.italic = some true then ["font-style:italic"] else []) ++
    (if style.bold = some true then ["font-weight:bold"] else []) ++
    match style.shownSize? presentation with
    | some size => ["font-size:" ++ size.compactText ++ "px"]
    | none => []

/-- The text of the style attribute. -/
def css (style : Style) (presentation : Presentation) : String :=
  ";".intercalate (style.declarations presentation)

/-- The attributes of a styled span; an empty one is left out. -/
def attributes (style : Style) (presentation : Presentation) : Attributes :=
  let css := style.css presentation
  (if css.isEmpty then [] else [("style", css)]) ++
    (if style.classes.isEmpty then [] else [("class", style.classes)])

end Style

end CrossRef
