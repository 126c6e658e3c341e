/-!
Consoles. Messages are printed through a library for terminals, and a console is what is known of
it: how wide its lines are and where they break, and which styles and handlers it understands.
-/

namespace CrossRef

/-- A console on a stream that is no terminal, so that styles and handlers leave nothing behind. How
the library measures texts, breaks lines and reads descriptions is left open. -/
structure Console where
  /-- The columns of a line. -/
  width : Nat
  /-- The columns that a text takes. -/
  columns : List Char → Nat
  /-- The lines that a line of a message becomes. -/
  broken : List Char → List (List Char)
  /-- The name that all descriptions of one style share, or why a description is refused. -/
  styleName : List Char → Except String String
  /-- Why the parameters of a handler are refused, if they are. -/
  handlerFault? : List Char → Option String

namespace Console

/-- The text of a message in lines that are broken. -/
def laidOut (console : Console) (text : List Char) : List Char :=
  ['\n'].intercalate ((text.splitOn '\n').flatMap console.broken)

end Console

end CrossRef
