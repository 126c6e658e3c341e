import CrossRef.Content.Paragraph
import CrossRef.Text.Greek
import CrossRef.Text.Word

/-!
Page names: the canonical name of the page that a piece of content talks about. Greek letters are
spelled out between fences, and a fence between two words becomes a space.
-/

namespace CrossRef.PageName

/-- The fence is a low line. -/
def fence : Char := '_'

/-- The character of zero width that content may hold between words. -/
def zeroWidthSpace : Char := '\u200B'

/-- A Greek letter is replaced by its name between two fences. -/
def spellOut (c : Char) : List Char :=
  match Text.greekName? c with
  | some name => fence :: name.toList ++ [fence]
  | none => [c]

/-- A gap is seen between characters that belong to a word. -/
def isGapEdge (c : Char) : Bool :=
  Text.isAsciiWord c || Text.isHan c

/-- The scan for gaps: either no left edge is held, or one is, with the fences after it. -/
inductive Scan
  | idle
  | held (edge : Char) (fences : Nat)

/-- Gaps are found from the left and do not overlap: the right edge of a gap is not the left edge
of the next. A gap of fences becomes one space. Where no edge follows several fences, the last of
them is the right edge. -/
def fillGapsFrom : Scan → List Char → List Char
  | .idle, [] => []
  | .held edge 0, [] => [edge]
  | .held edge 1, [] => [edge, fence]
  | .held edge (_ + 2), [] => [edge, ' ', fence]
  | .idle, c :: rest =>
    if isGapEdge c then fillGapsFrom (.held c 0) rest else c :: fillGapsFrom .idle rest
  | .held edge 0, c :: rest =>
    if c = fence then fillGapsFrom (.held edge 1) rest
    else if isGapEdge c then edge :: fillGapsFrom (.held c 0) rest
    else edge :: c :: fillGapsFrom .idle rest
  | .held edge (fences + 1), c :: rest =>
    if c = fence then fillGapsFrom (.held edge (fences + 2)) rest
    else if isGapEdge c then edge :: ' ' :: c :: fillGapsFrom .idle rest
    else if fences = 0 then edge :: fence :: c :: fillGapsFrom .idle rest
    else edge :: ' ' :: fence :: c :: fillGapsFrom .idle rest

/-- Every gap of fences between two edges becomes a space. -/
def fillGaps (text : List Char) : List Char :=
  fillGapsFrom .idle text

/-- Low lines of the content itself are spaces, Greek letters are spelled out, characters of zero
width disappear, gaps are filled, the other fences disappear, and white space is collapsed and
trimmed. -/
def ofChars (text : List Char) : List Char :=
  let spaced := text.map fun c => if c = fence then ' ' else c
  let spelled := (spaced.flatMap spellOut).filter (· ≠ zeroWidthSpace)
  Text.trim (Text.collapse ((fillGaps spelled).filter (· ≠ fence)))

/-- A suffix follows the content after a space, unless both sides of the seam need none. -/
def withSuffix (text : List Char) (suffix : Option String) (edge : EdgeKind) : List Char :=
  match suffix with
  | none => text
  | some suffix =>
    if suffix.isEmpty then text
    else if edge = .cjk && suffix.toList.head?.any Text.isUnspacedLetter then text ++ suffix.toList
    else text ++ ' ' :: suffix.toList

end PageName

/-- The page that content is about, with a suffix and the kind of the last edge of the content. -/
def Paragraph.pageName (paragraph : Paragraph) (suffix : Option String) (edge : EdgeKind) :
    String :=
  String.ofList (PageName.ofChars (PageName.withSuffix paragraph.text.toList suffix edge))

end CrossRef
