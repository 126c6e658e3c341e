import CrossRef.Report.Basic
import CrossRef.Terminal.Screen

/-!
Reports on the screen: the announcement, the progress, the result, and the output as data. The exit
code tells of success.
-/

namespace CrossRef

/-- How a run ends: it exits with a code, or it is broken off. -/
inductive Ending
  | exit (code : Nat)
  | markup (fault : Markup.Fault)
  | noResult
  deriving DecidableEq, Repr

/-- The reason for breaking off. -/
def Ending.reason? : Ending → Option String
  | exit _ => none
  | markup fault => some fault.message
  | noResult => some "progress_callback must set result.result to a non-empty string"

namespace Report

/-- The notices before the result. -/
def progressPrints (report : Report) (clock : String) : List Print :=
  .status clock report.announcement ::
    report.progressTexts.map fun step => .progress clock step.2 step.1

/-- The result, marked as success or failure. -/
def resultPrint (report : Report) (clock : String) : Print :=
  if report.success then .success clock report.result else .failure clock report.result

/-- The output in a format; for a success a page of its own may stand in. -/
def outputPrint (report : Report) (format : DataFormat) (page : Option (Entries Json → String)) :
    Print :=
  match page with
  | some page => if report.success then .data (page report.output) else asData
  | none => asData
where
  /-- The output as an object. -/
  asData : Print := .data (format.text (.object report.output))

/-- The exit code is zero for success and one for failure. -/
def exitCode (report : Report) : Nat :=
  if report.success then 0 else 1

/-- A report is shown. A report without a result is broken off behind its progress, and a fault in
the markup of a notice breaks off behind the notices before it. -/
def shown (report : Report) (clock : String) (format : DataFormat)
    (page : Option (Entries Json → String)) (console : Console := .wide) : Screen × Ending :=
  let prints :=
    report.progressPrints clock ++
      if report.result.isEmpty then []
      else [report.resultPrint clock, report.outputPrint format page]
  match Screen.printAll {} prints console with
  | (screen, some fault) => (screen, .markup fault)
  | (screen, none) =>
    (screen, if report.result.isEmpty then .noResult else .exit report.exitCode)

end Report

end CrossRef
