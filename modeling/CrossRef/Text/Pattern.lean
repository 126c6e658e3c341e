/-!
Regular patterns of characters, matched by derivatives: what is left of a pattern after one
character.
-/

namespace CrossRef.Text

/-- A regular pattern. -/
inductive Pattern
  | nothing
  | empty
  | one (holds : Char → Bool)
  | seq (first second : Pattern)
  | either (first second : Pattern)
  | many (pattern : Pattern)

namespace Pattern

/-- A pattern may match the empty text. -/
def matchesEmpty : Pattern → Bool
  | nothing | one _ => false
  | empty | many _ => true
  | seq first second => first.matchesEmpty && second.matchesEmpty
  | either first second => first.matchesEmpty || second.matchesEmpty

/-- One pattern after another; a part that adds nothing is left out. -/
def andThen : Pattern → Pattern → Pattern
  | nothing, _ => nothing
  | empty, second => second
  | first, nothing => seq first nothing
  | first, second => seq first second

/-- One pattern or another; a part that matches nothing is left out. -/
def orElse : Pattern → Pattern → Pattern
  | nothing, second => second
  | first, nothing => first
  | first, second => either first second

/-- What is left of a pattern after a character. -/
def derivative (c : Char) : Pattern → Pattern
  | nothing | empty => nothing
  | one holds => if holds c then empty else nothing
  | seq first second =>
    if first.matchesEmpty then
      orElse (andThen (first.derivative c) second) (second.derivative c)
    else andThen (first.derivative c) second
  | either first second => orElse (first.derivative c) (second.derivative c)
  | many pattern => andThen (pattern.derivative c) (many pattern)

/-- The whole text matches a pattern. -/
def matchesText (pattern : Pattern) (text : List Char) : Bool :=
  (text.foldl (fun left c => left.derivative c) pattern).matchesEmpty

/-- A character of a set. -/
def oneOf (set : String) : Pattern :=
  one fun c => set.toList.contains c

/-- Patterns in a row. -/
def row (patterns : List Pattern) : Pattern :=
  patterns.foldr seq empty

/-- One of several patterns. -/
def anyOf (patterns : List Pattern) : Pattern :=
  patterns.foldr either nothing

/-- A word as it stands. -/
def word (text : String) : Pattern :=
  row (text.toList.map fun letter => one (· == letter))

/-- One of several words. -/
def words (texts : List String) : Pattern :=
  anyOf (texts.map word)

/-- A pattern that may be missing. -/
def optional (pattern : Pattern) : Pattern :=
  either pattern empty

/-- A pattern once or more often. -/
def some (pattern : Pattern) : Pattern :=
  seq pattern (many pattern)

/-- A decimal digit of ASCII. -/
def digit : Pattern :=
  one Char.isDigit

end Pattern

end CrossRef.Text
