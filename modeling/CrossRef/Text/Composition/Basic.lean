import CrossRef.Text.Composition.Decomposition
import CrossRef.Text.Composition.Order
import CrossRef.Text.Table

/-!
The composed form of a text: characters are decomposed, marks on one base are put in the order of
their classes, and neighbours with a common composite are joined again.
-/

namespace CrossRef.Text.Composition

/-- The syllables of Hangul are numbered by leading consonant, vowel and trailing consonant. -/
def syllableBase : Nat := 0xAC00

/-- The leading consonants are nineteen. -/
def leadBase : Nat := 0x1100

/-- The vowels are twenty-one. -/
def vowelBase : Nat := 0x1161

/-- The trailing consonants are twenty-seven; the base itself stands for none. -/
def trailBase : Nat := 0x11A7

/-- A syllable falls apart into its two or three letters. -/
def syllableLetters? (point : Nat) : Option (List Nat) :=
  if syllableBase ≤ point ∧ point < syllableBase + 19 * 21 * 28 then
    let index := point - syllableBase
    let pair := [leadBase + index / (21 * 28), vowelBase + index / 28 % 21]
    some (if index % 28 = 0 then pair else pair ++ [trailBase + index % 28])
  else none

/-- Two Hangul characters that stand side by side in one syllable form it, or its first part. -/
def syllable? (first second : Nat) : Option Nat :=
  if leadBase ≤ first ∧ first < leadBase + 19 ∧ vowelBase ≤ second ∧ second < vowelBase + 21 then
    some (syllableBase + ((first - leadBase) * 21 + (second - vowelBase)) * 28)
  else if syllableBase ≤ first ∧ first < syllableBase + 19 * 21 * 28 ∧
      (first - syllableBase) % 28 = 0 ∧ trailBase < second ∧ second < trailBase + 28 then
    some (first + (second - trailBase))
  else none

/-- The depth bounds the number of steps that a character is taken apart. -/
def lettersWithin : Nat → Nat → List Nat
  | 0, point => [point]
  | depth + 1, point =>
    match find? singletons point with
    | some other => lettersWithin depth other
    | none => match find? pairs point with
      | some (first, second) => lettersWithin depth first ++ lettersWithin depth second
      | none => (syllableLetters? point).getD [point]

/-- Four steps take every character apart: no chain in the tables is longer. -/
def letters (c : Char) : List Char :=
  (lettersWithin 4 c.toNat).map Char.ofNat

/-- A mark moves to the right over marks of a lower class, and never over a starter. -/
def place (mark : Char) : List Char → List Char
  | [] => [mark]
  | next :: rest =>
    if 0 < combiningClass next ∧ combiningClass next < combiningClass mark then
      next :: place mark rest
    else mark :: next :: rest

/-- The decomposed form writes every character in its letters, the marks in order. -/
def decompose (text : List Char) : List Char :=
  (text.flatMap letters).foldr place []

/-- Some pairs stay apart although one character abbreviates them. -/
def keptApart : List Nat :=
  [0x344, 0x958, 0x959, 0x95A, 0x95B, 0x95C, 0x95D, 0x95E, 0x95F, 0x9DC, 0x9DD, 0x9DF, 0xA33,
   0xA36, 0xA59, 0xA5A, 0xA5B, 0xA5E, 0xB5C, 0xB5D, 0xF43, 0xF4D, 0xF52, 0xF57, 0xF5C, 0xF69,
   0xF73, 0xF75, 0xF76, 0xF78, 0xF81, 0xF93, 0xF9D, 0xFA2, 0xFA7, 0xFAC, 0xFB9, 0x2ADC, 0xFB1D,
   0xFB1F, 0xFB2A, 0xFB2B, 0xFB2C, 0xFB2D, 0xFB2E, 0xFB2F, 0xFB30, 0xFB31, 0xFB32, 0xFB33, 0xFB34,
   0xFB35, 0xFB36, 0xFB38, 0xFB39, 0xFB3A, 0xFB3B, 0xFB3C, 0xFB3E, 0xFB40, 0xFB41, 0xFB43, 0xFB44,
   0xFB46, 0xFB47, 0xFB48, 0xFB49, 0xFB4A, 0xFB4B, 0xFB4C, 0xFB4D, 0xFB4E, 0x1D15E, 0x1D15F,
   0x1D160, 0x1D161, 0x1D162, 0x1D163, 0x1D164, 0x1D1BB, 0x1D1BC, 0x1D1BD, 0x1D1BE, 0x1D1BF,
   0x1D1C0]

/-- The single character that stands for two neighbours. No second partner is below U+0300. -/
def composite? (first second : Char) : Option Char :=
  if second.toNat < 0x300 then none
  else match syllable? first.toNat second.toNat with
    | some point => some (Char.ofNat point)
    | none =>
      (pairs.find? fun entry =>
        entry.2.1 = first.toNat ∧ entry.2.2 = second.toNat ∧ entry.1 ∉ keptApart).map
          (Char.ofNat ·.1)

/-- The last mark that has been kept blocks marks of its own class and below. -/
def isBlocked (kept : List Char) (c : Char) : Bool :=
  kept.head?.any fun mark => combiningClass c ≤ combiningClass mark

/-- The base takes up the characters that follow it. A mark that stays apart is kept, the last
first; a starter that stays apart is the next base. -/
def composeFrom (base : Char) (kept : List Char) : List Char → List Char
  | [] => base :: kept.reverse
  | c :: rest =>
    match if isBlocked kept c then none else composite? base c with
    | some joined => composeFrom joined kept rest
    | none =>
      if combiningClass c = 0 then base :: kept.reverse ++ composeFrom c [] rest
      else composeFrom base (c :: kept) rest

/-- Neighbours are joined from the left. -/
def compose : List Char → List Char
  | [] => []
  | c :: rest => composeFrom c [] rest

end CrossRef.Text.Composition

namespace CrossRef.Text

/-- The composed form of a text is the same for all spellings of the same characters. -/
def composed (text : String) : String :=
  String.ofList (Composition.compose (Composition.decompose text.toList))

end CrossRef.Text
