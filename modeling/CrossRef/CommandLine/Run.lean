import CrossRef.CommandLine.Command
import CrossRef.Log
import CrossRef.Report.PageName
import CrossRef.Report.Screen
import CrossRef.Report.Settings
import CrossRef.Terminal.ControlSequence

/-!
Running a command line: what is printed, what is logged, and the exit code.
-/

namespace CrossRef.CommandLine

/-- What a run leaves behind. -/
structure Outcome where
  screen : Screen
  exitCode : Nat
  log : Log := {}

/-- What is printed without markup to an output that is no terminal: it loses the sequences that only
a terminal would act on. A terminal would be sent the text as it is. -/
def echoed (text : String) : String :=
  String.ofList (ControlSequence.removed text.toList)

/-- A page of HTML starts with a comment that names the kind of the reference and its page. -/
def htmlPage (kind : String) (page : Option String) (html : String) : String :=
  let named := match page with
    | some page => if page.isEmpty then "" else " page=" ++ page
    | none => ""
  "<!-- " ++ kind ++ named ++ " -->\n" ++ html

/-- The text of a member that is a text. -/
def textMember? (members : Entries Json) (name : String) : Option String :=
  match members.get? name with
  | some (.string text) => some text
  | _ => none

/-- The page of the output of a report on a reference. -/
def pageOfOutput (output : Entries Json) : String :=
  echoed <| htmlPage ((textMember? output "kind").getD "") (textMember? output "page")
    ((textMember? output "html").getD "")

/-- A line that is no notice of a report. -/
def plainLine (text : String) (screen : Screen) : Screen :=
  { screen with notices := screen.notices ++ echoed text ++ "\n" }

/-- A run that is broken off says why. -/
def brokenOff (reason : String) (screen : Screen) : Screen × Nat :=
  (plainLine ("Unhandled error: " ++ reason) screen, 1)

/-- A report ends with its own exit code, unless showing it is broken off. -/
def showReport (clock : String) (format : DataFormat) (page : Option (Entries Json → String))
    (report : Report) (console : Console) : Screen × Nat :=
  match report.shown clock format page console with
  | (screen, .exit code) => (screen, code)
  | (screen, ending) => brokenOff (ending.reason?.getD "") screen

/-- What a command prints, and its exit code. -/
def runCommand (home : SettingsHome) (clock : String) (format : DataFormat) (console : Console) :
    Command → Screen × Nat
  | .help topic => ({ data := topic.usage ++ "\n" }, 0)
  | .remind topic => ({ notices := topic.usage ++ "\n" }, 0)
  | .pageName text suffix => showReport clock format none (.ofPageName text suffix) console
  | .reference request asPage =>
    match Report.reference request home with
    | .ok report =>
      showReport clock format (if asPage then some pageOfOutput else none) report console
    | .error fault => brokenOff fault.message {}
  | .settings =>
    match Report.settings home with
    | .ok report => showReport clock format none report console
    | .error fault => brokenOff fault.message {}

/-- What is printed about words that are refused. -/
def runRefusal : Refusal → Screen × Nat
  | .usage fault => (plainLine ("Error: " ++ fault.message) {}, 2)
  | .format name =>
    (plainLine ("Error: --display must be 'json' or 'yaml', got '" ++ name ++ "'") {}, 1)

/-- The level of the log. Faults of the settings that commands report leave it at information. -/
def logLevel (home : SettingsHome) : Except Settings.LoadFault String :=
  match Settings.load home with
  | .ok settings => .ok settings.level
  | .error fault => if fault.isReported then .ok "INFO" else .error fault

/-- What a command leaves in the log: the address of a reference, if it is not kept. Nothing is
entered when the settings do not load. -/
def noteCommand (home : SettingsHome) (log : Log) : Command → Log
  | .reference request _ =>
    match Settings.load home with
    | .ok _ => log.noteAdmission (.ofUrl? request.url)
    | .error _ => log
  | _ => log

/-- The path of the log file. -/
def logPath (home : SettingsHome) : String :=
  home.pathOf "btex.log"

/-- The log is opened with the level of the settings, and then the command line is read and run.
Faults of the settings that commands do not report stop the run before that. -/
def run (words : List String) (home : SettingsHome) (clock : String)
    (console : Console := .wide) : Except Settings.LoadFault Outcome := do
  let level ← logLevel home
  let log := Log.configure {} (logPath home) level
  match readRequest words with
  | .ok request =>
    let (screen, exitCode) := runCommand home clock request.format console request.command
    return { screen, exitCode, log := noteCommand home log request.command }
  | .error refusal =>
    let (screen, exitCode) := runRefusal refusal
    return { screen, exitCode, log }

end CrossRef.CommandLine
