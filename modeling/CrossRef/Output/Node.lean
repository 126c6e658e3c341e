import CrossRef.Entries
import CrossRef.Text.Blank

/-!
The output tree: texts and elements with attributes and children.
-/

namespace CrossRef

/-- A piece of output. -/
inductive Node
  | text (content : String)
  | element (tag : String) (attributes : Attributes) (children : List Node)
  deriving Inhabited

/-- The words of the class attribute, in order. -/
def Attributes.classes (attributes : Attributes) : List String :=
  (Text.words ((Entries.get? attributes "class").getD "").toList).map String.ofList

/-- The class attribute is written anew with single spaces, and holds the name once more only if
it did not hold it. -/
def Attributes.addClass (attributes : Attributes) (name : String) : Attributes :=
  let known := classes attributes
  Entries.set attributes "class"
    (" ".intercalate (if known.contains name then known else known ++ [name]))

end CrossRef
