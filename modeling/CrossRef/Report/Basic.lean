import CrossRef.Json.Basic
import CrossRef.Number.Format

/-!
Reports: what a command announces, how far it gets, and what comes out.
-/

namespace CrossRef

/-- The outcome of a command. The output is an object; its members keep their order. -/
structure Report where
  announcement : String
  progress : List (Binary64 × String) := []
  result : String := ""
  output : Entries Json := []
  success : Bool := false

namespace Report

/-- A failure puts its text in front of the output and makes it the result. -/
def fail (report : Report) (text : String) (output : Entries Json) : Report :=
  { report with
    output := Entries.ofList (("errors", .ofStrings [text]) :: output)
    result := text
    success := false }

/-- The progress with its fractions in percent. -/
def progressTexts (report : Report) : List (String × String) :=
  report.progress.map fun step => (step.1.percentText, step.2)

end Report

end CrossRef
