import CrossRef.Number.Format
import CrossRef.Number.Numeral
import CrossRef.Settings.Basic

/-!
Validation: which data are settings, and what is said about the first value that is none.
-/

namespace CrossRef.Settings

/-- The rules that a value may break. -/
inductive Rule
  | noSuchSetting
  | section (name : String)
  | number
  | numeral
  | positive
  | list
  | text
  | level
  | range (smallest largest : Binary64)

/-- The words for a broken rule. -/
def Rule.words : Rule → String
  | noSuchSetting => "Extra inputs are not permitted"
  | .section name => "Input should be a valid dictionary or instance of " ++ name
  | number => "Input should be a valid number"
  | numeral => "Input should be a valid number, unable to parse string as a number"
  | positive => "Input should be greater than 0"
  | list => "Input should be a valid list"
  | text => "Input should be a valid string"
  | level => "Input should be 'DEBUG', 'INFO', 'WARN' or 'ERROR'"
  | range smallest largest =>
    "Value error, min_font_size (" ++ smallest.text ++ ") must not exceed max_font_size (" ++
      largest.text ++ ")"

/-- A broken rule with the path to the value that breaks it. -/
structure Violation where
  path : List String
  rule : Rule

namespace Violation

/-- The violation as seen from an enclosing section. -/
def inside (name : String) (violation : Violation) : Violation :=
  { violation with path := name :: violation.path }

/-- The path with points, if it is not empty, and the words for the rule. -/
def message (violation : Violation) : String :=
  let place := ".".intercalate violation.path
  if place.isEmpty then violation.rule.words else place ++ ": " ++ violation.rule.words

end Violation

/-- A check gives a value or the first violation. -/
abbrev Check := Except Violation

/-- A broken rule at the value itself. -/
def violates {α : Type} (rule : Rule) : Check α :=
  .error ⟨[], rule⟩

/-- A check of the value of one name. -/
def within {α : Type} (name : String) (check : Check α) : Check α :=
  check.mapError (·.inside name)

/-- A numeral of the settings: white space around it, or low lines between its parts. -/
def numeral? (text : String) : Option Binary64 :=
  let chars := text.toList
  match Numeral.ascii? (Text.strip Text.isWhiteSpace chars) with
  | some value => some value
  | none =>
    let doubled := (chars.zip chars.tail).contains ('_', '_')
    if chars.head? = some '_' ∨ chars.getLast? = some '_' ∨ doubled then none
    else if '_' ∈ chars then Numeral.ascii? (chars.filter (· ≠ '_'))
    else none

/-- Numbers, truth values and numerals count as numbers. -/
def checkNumber : Json → Check Binary64
  | .number value => .ok value
  | .integer value =>
    let number := Binary64.ofInt value
    if number.isFinite then .ok number else violates .number
  | .boolean value => .ok (if value then 1 else 0)
  | .string text =>
    match numeral? text with
    | some value => .ok value
    | none => violates .numeral
  | .null | .array _ | .object _ => violates .number

/-- A size is greater than zero. -/
def checkSize (value : Json) : Check Binary64 := do
  let number ← checkNumber value
  if Binary64.lt 0 number then return number else violates .positive

/-- The texts of a list, and the place of the first element that is none. -/
def checkTexts : Nat → List Json → Check (List String)
  | _, [] => .ok []
  | index, .string text :: rest => do
    let texts ← checkTexts (index + 1) rest
    return text :: texts
  | index, _ => within (toString index) (violates .text)

/-- A list of texts. -/
def checkTextList : Json → Check (List String)
  | .array elements => checkTexts 0 elements
  | _ => violates .list

/-- A level is one of the four names. -/
def checkLevel : Json → Check String
  | .string name => if levels.contains name then .ok name else violates .level
  | _ => violates .level

/-- The value of a name, or a default when the name is missing. -/
def checkMember {α : Type} (members : Entries Json) (name : String) (default : α)
    (check : Json → Check α) : Check α :=
  match members.get? name with
  | some value => within name (check value)
  | none => .ok default

/-- All names are known. -/
def checkNames (members : Entries Json) (known : List String) : Check Unit :=
  match members.names.find? (!known.contains ·) with
  | some name => within name (violates .noSuchSetting)
  | none => .ok ()

/-- The members of a section. -/
def checkSection (title : String) : Json → Check (Entries Json)
  | .object members => .ok members
  | _ => violates (.section title)

/-- The font sizes: each on its own first, then both together. -/
def checkSizes (value : Json) : Check (Binary64 × Binary64) := do
  let members ← checkSection "RenderConfig" value
  let smallest ← checkMember members "min_font_size" 8 checkSize
  let largest ← checkMember members "max_font_size" 72 checkSize
  checkNames members ["min_font_size", "max_font_size"]
  if Binary64.lt largest smallest then violates (.range smallest largest)
  else return (smallest, largest)

/-- The prefixes of category pages. -/
def checkPrefixes (value : Json) : Check (List String) := do
  let members ← checkSection "RefConfig" value
  let texts ← checkMember members "category_prefixes" defaultCategoryPrefixes checkTextList
  checkNames members ["category_prefixes"]
  return texts

/-- The level of the log. -/
def checkLog (value : Json) : Check String := do
  let members ← checkSection "LogConfig" value
  let level ← checkMember members "level" "INFO" checkLevel
  checkNames members ["level"]
  return level

/-- The settings in an object, section by section; unknown names come last. -/
def ofMembers (members : Entries Json) : Check Settings := do
  let (smallest, largest) ← checkMember members "render" (8, 72) checkSizes
  let categoryPrefixes ← checkMember members "ref" defaultCategoryPrefixes checkPrefixes
  let level ← checkMember members "log" "INFO" checkLog
  checkNames members ["render", "ref", "log"]
  return { smallest, largest, categoryPrefixes, level }

end CrossRef.Settings
