import CrossRef.Terminal.EmojiNames
import CrossRef.Text.Blank

/-!
Emoji in messages: a name between two colons is a code for an emoji.
-/

namespace CrossRef.Emoji

/-- The emoji of a table that has a name. -/
def lookUp {α : Type} (table : List (α × List String)) (name : String) : Option α :=
  (table.find? fun entry => entry.2.contains name).map Prod.fst

/-- The flag of a region is written with the letters of the region. -/
def flag (letters : String) : List Nat :=
  letters.toList.map fun c => 0x1F1E6 + (c.toNat - 'a'.toNat)

/-- The name of the flag of a region. -/
def namesFlag (region name : String) : Bool :=
  region = name || "flag_for_" ++ region = name

/-- The emoji of a name that names no tone. -/
def untoned? (name : String) : Option (List Nat) :=
  ((lookUp characterNames name).map ([·])).or <|
    (lookUp sequenceNames name).or <|
      ((regionNames.find? (namesFlag ·.2 name)).map (flag ·.1)).or <|
        (lookUp flagNames name).map flag

/-- A tone follows the first character. The mark for a colourful picture gives way to it. -/
def tint (tone : Nat) : List Nat → List Nat
  | first :: 0xFE0F :: rest => first :: tone :: rest
  | first :: rest => first :: tone :: rest
  | [] => []

/-- The emoji of a name that ends in the name of a tone. -/
def toned? (name : String) : Option (List Nat) :=
  tones.findSome? fun tone =>
    (tonedNames.find? fun base => base ++ "_" ++ tone.1 ++ "_skin_tone" = name).bind fun base =>
      (untoned? base).map (tint tone.2)

/-- The emoji of a name. -/
def ofName? (name : String) : Option (List Char) :=
  ((untoned? name).or (toned? name)).map (·.map Char.ofNat)

/-- The letters of names in lower case. The signs for kelvin and ångström count as letters. -/
def lowerLetter (c : Char) : Char :=
  if c = '\u212A' then 'k'
  else if c = '\u212B' then 'å'
  else if 'À' ≤ c ∧ c ≤ 'Þ' ∧ c ≠ '×' then Char.ofNat (c.toNat + 0x20)
  else c.toLower

/-- The ends of a code that ask for a variant, each with the mark of the variant. -/
def variants : List (List Char × Char) :=
  [("-emoji".toList, '\uFE0F'), ("-text".toList, '\uFE0E')]

/-- The emoji for the inside of a code: a name in any case, and perhaps a variant. -/
def ofCode? (inside : List Char) : Option (List Char) :=
  let named (name : List Char) := ofName? (String.ofList (name.map lowerLetter))
  match variants.find? fun variant => variant.1.isSuffixOf inside with
  | some (ending, mark) => (named (inside.take (inside.length - ending.length))).map (· ++ [mark])
  | none => named inside

/-- The characters that may stand inside a code. -/
def isInside (c : Char) : Bool :=
  c != ':' && !Text.isBlank c

/-- The inside of a code at the front of the text, and the text after it. -/
def takeCode? : List Char → Option (List Char × List Char)
  | ':' :: rest =>
    match rest.dropWhile isInside with
    | ':' :: afterCode => some (rest.takeWhile isInside, afterCode)
    | _ => none
  | _ => none

/-- A code is shorter than the text that it stands in. -/
theorem length_takeCode?_lt {text inside afterCode : List Char}
    (taken : takeCode? text = some (inside, afterCode)) : afterCode.length < text.length := by
  rw [takeCode?.eq_def] at taken
  split at taken
  · next rest =>
    split at taken
    · next found =>
      cases taken
      have shorter := (List.dropWhile_suffix (l := rest) isInside).length_le
      rw [found] at shorter
      simp only [List.length_cons] at shorter ⊢
      omega
    · cases taken
  · cases taken

/-- Codes are looked for from the left and do not overlap. A code without an emoji stays as it
is. -/
def replaceCodes : List Char → List Char
  | [] => []
  | c :: rest =>
    match _ : takeCode? (c :: rest) with
    | some (inside, afterCode) =>
      (ofCode? inside).getD (':' :: inside ++ [':']) ++ replaceCodes afterCode
    | none => c :: replaceCodes rest
termination_by text => text.length
decreasing_by
  · exact length_takeCode?_lt ‹_›
  · exact Nat.lt_succ_self rest.length

end CrossRef.Emoji
