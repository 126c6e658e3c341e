import CrossRef.Entries
import CrossRef.Number.Binary64

/-!
Structured data: what settings are read from, and what commands report.
-/

namespace CrossRef

/-- A datum. Whole numbers are exact, other numbers are binary, and the members of an object keep
their order. -/
inductive Json
  | null
  | boolean (value : Bool)
  | integer (value : Int)
  | number (value : Binary64)
  | string (value : String)
  | array (elements : List Json)
  | object (members : List (String × Json))
  deriving Inhabited

namespace Json

/-- A text, or null where there is none. -/
def ofString? : Option String → Json
  | some value => string value
  | none => null

/-- A list of texts. -/
def ofStrings (values : List String) : Json :=
  array (values.map string)

end Json

end CrossRef
