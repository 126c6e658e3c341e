/-!
White space: the blank characters, trimming, collapsing and splitting into words.
-/

namespace CrossRef.Text

/-- The blank characters are the Unicode spaces, the line and paragraph separators, and the
control characters that separate lines, columns or records. -/
def isBlank (c : Char) : Bool :=
  let point := c.toNat
  (0x09 ≤ point && point ≤ 0x0D) || (0x1C ≤ point && point ≤ 0x20) || point == 0x85 ||
    point == 0xA0 || point == 0x1680 || (0x2000 ≤ point && point ≤ 0x200A) || point == 0x2028 ||
    point == 0x2029 || point == 0x202F || point == 0x205F || point == 0x3000

/-- Every ASCII space of the core library is blank. -/
theorem isBlank_of_isWhitespace {c : Char} (space : c.isWhitespace) : isBlank c := by
  simp only [Char.isWhitespace, Bool.or_eq_true, decide_eq_true_eq] at space
  rcases space with ((rfl | rfl) | rfl) | rfl <;> decide

/-- The white space of Unicode leaves out the controls that separate records. -/
def isWhiteSpace (c : Char) : Bool :=
  isBlank c && !(0x1C ≤ c.toNat && c.toNat ≤ 0x1F)

/-- The characters of one kind are taken off both ends of the text. -/
def strip (kind : Char → Bool) (text : List Char) : List Char :=
  ((text.dropWhile kind).reverse.dropWhile kind).reverse

/-- Blank characters are taken off both ends of the text. -/
def trim (text : List Char) : List Char :=
  strip isBlank text

/-- The flag tells whether the character before the text was blank. -/
def collapseFrom : Bool → List Char → List Char
  | _, [] => []
  | afterBlank, c :: rest =>
    if isBlank c then
      if afterBlank then collapseFrom true rest else ' ' :: collapseFrom true rest
    else c :: collapseFrom false rest

/-- Every run of blank characters becomes one space. -/
def collapse (text : List Char) : List Char :=
  collapseFrom false text

/-- The text is cut at every blank character; the result is never empty. -/
def cut : List Char → List (List Char)
  | [] => [[]]
  | c :: rest =>
    if isBlank c then [] :: cut rest
    else match cut rest with
      | [] => [[c]]
      | piece :: pieces => (c :: piece) :: pieces

/-- The words are the maximal runs of characters that are not blank. -/
def words (text : List Char) : List (List Char) :=
  (cut text).filter (!·.isEmpty)

/-- A text is blank when it holds blank characters only. -/
def isAllBlank (text : List Char) : Bool :=
  text.all isBlank

end CrossRef.Text
