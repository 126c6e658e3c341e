import CrossRef.Json.Writer
import CrossRef.Terminal.Markup
import CrossRef.Terminal.Wrapping
import CrossRef.Yaml.Writer

/-!
The screen: data are printed as they are, and notices for the reader on lines of a console, read as
markup.
-/

namespace CrossRef

/-- The notations for data. -/
inductive DataFormat
  | yaml
  | json (indent : Nat)
  deriving DecidableEq, Repr

namespace DataFormat

/-- A format by its name; every name but one stands for JSON. -/
def ofName (name : String) (indent : Nat) : DataFormat :=
  if name = "yaml" then yaml else json indent

/-- The names by which a format is asked for. -/
def names : List String := ["json", "yaml"]

/-- The indentation of JSON unless another is asked for. -/
def usualIndent : Nat := 2

/-- The first of several wishes that names a format is fulfilled; without one it is YAML. -/
def ofWishes (wishes : List String) : DataFormat :=
  match wishes.find? names.contains with
  | some name => ofName name usualIndent
  | none => yaml

/-- The text of data in a format, up to the end of its last line. -/
def text (data : Json) : DataFormat → String
  | yaml => Yaml.write data
  | json indent => data.write indent ++ "\n"

end DataFormat

/-- One thing to print. -/
inductive Print
  | data (text : String)
  | notice (markup : String)
  deriving DecidableEq, Repr

namespace Print

/-- A notice starts with the time of day. -/
def timed (clock message : String) : Print :=
  notice ("[dim]" ++ clock ++ "[/dim] " ++ message)

/-- What is being done. -/
def status (clock message : String) : Print :=
  timed clock ("[blue]i[/blue] " ++ message)

/-- What was done. -/
def success (clock message : String) : Print :=
  timed clock ("[green]✓[/green] " ++ message)

/-- What went wrong. -/
def failure (clock message : String) : Print :=
  timed clock ("[red]✗[/red] " ++ message)

/-- What went wrong, with a line of its own for the details if there are any. -/
def failureInDetail (clock message details : String) : List Print :=
  failure clock message ::
    if details.isEmpty then [] else [notice ("  [dim]" ++ details ++ "[/dim]")]

/-- How far the work has come. -/
def progress (clock message share : String) : Print :=
  timed clock ("Progress: " ++ message ++ " (" ++ share ++ ")")

end Print

/-- What has been printed: the data, and the notices. -/
structure Screen where
  data : String := ""
  notices : String := ""
  deriving DecidableEq, Repr

namespace Screen

/-- One thing is printed. Data follow the earlier data as they are, and a notice without faults
follows the earlier notices on a line of its own, or on several if the console breaks it. -/
def print (screen : Screen) (console : Console) : Print → Except Markup.Fault Screen
  | .data text => .ok { screen with data := screen.data ++ text }
  | .notice markup =>
    (Markup.shown console markup).map fun line =>
      { screen with notices := screen.notices ++ line ++ "\n" }

/-- Things are printed in order up to the first fault. -/
def printAll (screen : Screen) (prints : List Print) (console : Console := .wide) :
    Screen × Option Markup.Fault :=
  match prints with
  | [] => (screen, none)
  | first :: rest =>
    match screen.print console first with
    | .ok next => next.printAll rest console
    | .error fault => (screen, some fault)

end Screen

end CrossRef
