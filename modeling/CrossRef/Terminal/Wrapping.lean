import CrossRef.Terminal.Console
import CrossRef.Terminal.StyleName
import CrossRef.Terminal.Width

/-!
Lines that are broken between words. Words that are wider than a line are cut, and what still stands
out is cut off.
-/

namespace CrossRef

namespace Wrapping

open Text (isBlank)

/-- The cells that a text takes. -/
def columns : List Char → Nat
  | [] => 0
  | c :: rest => Markup.cells c + columns rest

/-- A text without the blanks at its end. -/
def withoutTail (text : List Char) : List Char :=
  (text.reverse.dropWhile isBlank).reverse

/-- The words of a line, each with the blanks behind it. The first one also has those in front. -/
def wordsOf (line : List Char) : List (List Char) :=
  match line.splitBy fun before next => !isBlank before || isBlank next with
  | first :: second :: rest =>
    if first.all isBlank then (first ++ second) :: rest else first :: second :: rest
  | pieces => pieces

/-- A text behind the start of a line, in pieces that are no wider than a line. -/
def chop (width : Nat) : List Char → List Char → List (List Char)
  | start, [] => [start]
  | start, c :: rest =>
    if columns start + Markup.cells c ≤ width then chop width (start ++ [c]) rest
    else start :: chop width [c] rest

/-- Words are put on a line behind its start as long as they fit without the blanks at their end. A
word that fits on no line is chopped. -/
def fill (width : Nat) : List Char → List (List Char) → List (List Char)
  | start, [] => [start]
  | start, word :: rest =>
    let visible := columns (withoutTail word)
    if columns start + visible ≤ width then fill width (start ++ word) rest
    else if width < visible then
      let pieces := (start :: chop width [] word).dropWhile List.isEmpty
      pieces.dropLast ++ fill width (pieces.getLast?.getD []) rest
    else start :: fill width word rest

/-- Blanks at the end of a line give way to its characters beyond the width. -/
def trimmed (width : Nat) (line : List Char) : List Char :=
  line.take (max (withoutTail line).length width)

/-- The start of a text that fits into a room. -/
def fitting : Nat → List Char → List Char
  | _, [] => []
  | room, c :: rest =>
    if Markup.cells c ≤ room then c :: fitting (room - Markup.cells c) rest else []

/-- A line that is too wide is cut off. A space stands for a character that is cut in two. -/
def cropped (width : Nat) (line : List Char) : List Char :=
  if columns line ≤ width then line
  else
    let start := fitting width line
    start ++ List.replicate (width - columns start) ' '

/-- The lines that a line becomes. -/
def broken (width : Nat) (line : List Char) : List (List Char) :=
  (fill width [] (wordsOf line)).map fun part => cropped width (trimmed width part)

end Wrapping

namespace Console

/-- A console of a width that breaks lines between words. It understands the styles of terminals and
does not read the parameters of handlers, so that it refuses nothing. -/
def ofWidth (width : Nat) : Console where
  width := width
  columns := Wrapping.columns
  broken := Wrapping.broken width
  styleName name := .ok (Markup.normalName name)
  handlerFault? _ := none

/-- The columns of a console for which no other number is asked. -/
def usualWidth : Nat := 80

/-- A console on which few messages are broken. -/
def wide : Console := ofWidth 4000

end Console

end CrossRef
