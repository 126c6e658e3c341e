import CrossRef.Content.Style
import CrossRef.Json.Basic

/-!
Settings: the limits on font sizes, the prefixes of category pages, and the level of the log.
-/

namespace CrossRef

/-- The settings in force. Values that were read satisfy the rules; values that were assigned
later may not. -/
structure Settings where
  smallest : Binary64 := 8
  largest : Binary64 := 72
  categoryPrefixes : List String := defaultCategoryPrefixes
  level : String := "INFO"
  deriving Inhabited

namespace Settings

/-- The levels of the log by name. -/
def levels : List String :=
  ["DEBUG", "INFO", "WARN", "ERROR"]

/-- The settings as data, in three sections. -/
def toJson (settings : Settings) : Json :=
  .object
    [("render", .object
      [("min_font_size", .number settings.smallest), ("max_font_size", .number settings.largest)]),
     ("ref", .object [("category_prefixes", .ofStrings settings.categoryPrefixes)]),
     ("log", .object [("level", .string settings.level)])]

/-- What the settings say about output. -/
def presentation (settings : Settings) : Presentation :=
  ⟨settings.smallest, settings.largest, settings.categoryPrefixes⟩

end Settings

end CrossRef
