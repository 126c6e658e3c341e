import CrossRef.CommandLine.Options
import CrossRef.Number.Numeral
import CrossRef.Report.Reference
import CrossRef.Terminal.Screen

/-!
Commands: what the words of a command line ask for.
-/

namespace CrossRef.CommandLine

/-- The places of the command line that have a help page. -/
inductive Topic
  | program
  | reference
  | pageName
  | rendering
  | settings
  | settingsPage
  deriving DecidableEq, Repr

/-- The usage line of a topic. It stands for a help page that a library draws; the wording is not the
program's. -/
def Topic.usage : Topic → String
  | program => "Usage: btexc [--display json|yaml] (ref|config) ..."
  | reference => "Usage: btexc ref (infer|render) ..."
  | pageName => "Usage: btexc ref infer [--suffix TEXT] TEXT"
  | rendering =>
    "Usage: btexc ref render [--page TEXT] [--key TEXT] [--url TEXT] [--suffix TEXT] [--infer]" ++
      " [--no-link] [--target-id TEXT] [--target-text TEXT] [--italic] [--bold] [--size FLOAT]" ++
      " [--html] [TEXT]"
  | settings => "Usage: btexc config show"
  | settingsPage => "Usage: btexc config show"

/-- What is asked for. -/
inductive Command
  | help (topic : Topic)
  | remind (topic : Topic)
  | pageName (text : String) (suffix : Option String)
  | reference (request : ReferenceRequest) (asPage : Bool)
  | settings

/-- A command with the format in which its output is printed. -/
structure Request where
  command : Command
  format : DataFormat

/-- Why there is no command: the words are refused, or the name of the format is. -/
inductive Refusal
  | usage (fault : UsageFault)
  | format (name : String)
  deriving DecidableEq, Repr

/-- The switch for help is known everywhere. -/
def helpRule : OptionRule := ⟨"help", some 'h', false⟩

/-- The words at one place. Options and arguments are mixed at the last place only. -/
def readAt (rules : List OptionRule) (mixed : Bool) (words : List String) :
    Except Refusal Words :=
  (readWords (helpRule :: rules) mixed none {} words).mapError .usage

/-- At most one argument is taken. -/
def singleArgument? (words : Words) : Except Refusal (Option String) :=
  match words.arguments with
  | [] => .ok none
  | [argument] => .ok (some argument)
  | _ :: extra :: _ => .error (.usage (.unexpectedArgument extra))

/-- The words behind the command for page names. -/
def readPageName (words : List String) : Except Refusal Command := do
  let read ← readAt [⟨"suffix", none, true⟩] true words
  if read.has "help" then return .help .pageName
  else
    match ← singleArgument? read with
    | some text => return .pageName text (read.value? "suffix")
    | none => throw (.usage (.missingArgument "TEXT"))

/-- The options of a reference. -/
def referenceRules : List OptionRule :=
  ["page", "key", "url", "suffix", "target-id", "target-text", "size"].map
      (fun name => ⟨name, none, true⟩) ++
    ["infer", "no-link", "italic", "bold", "html"].map (fun name => ⟨name, none, false⟩)

/-- A font size is a numeral. -/
def readSize? : Option String → Except Refusal (Option Binary64)
  | none => .ok none
  | some text =>
    match Numeral.lenient? text with
    | some size => .ok (some size)
    | none => .error (.usage (.notANumber text))

/-- The words behind the command for references. -/
def readReference (words : List String) : Except Refusal Command := do
  let read ← readAt referenceRules true words
  if read.has "help" then return .help .rendering
  else
    let size ← readSize? (read.value? "size")
    let text ← singleArgument? read
    let request : ReferenceRequest :=
      { text := text.getD ""
        page := read.value? "page"
        key := read.value? "key"
        url := read.value? "url"
        suffix := read.value? "suffix"
        infersPage := read.has "infer"
        isUnlinked := read.has "no-link"
        bookmark := read.value? "target-id"
        labelText := read.value? "target-text"
        italic := read.has "italic"
        bold := read.has "bold"
        size }
    return .reference request (read.has "html")

/-- The words behind the command for settings. -/
def readSettings (words : List String) : Except Refusal Command := do
  let read ← readAt [] true words
  if read.has "help" then return .help .settingsPage
  else
    match read.arguments with
    | [] => return .settings
    | extra :: _ => throw (.usage (.unexpectedArgument extra))

/-- A group of commands: the first argument names the command for the words after it. -/
def readGroup (topic : Topic) (commands : List (String × (List String → Except Refusal Command)))
    (words : List String) : Except Refusal Command := do
  let read ← readAt [] false words
  if read.has "help" then return .help topic
  else
    match read.arguments with
    | [] => return .remind topic
    | name :: rest =>
      match commands.lookup name with
      | some command => command rest
      | none => throw (.usage (.noSuchCommand name))

/-- The groups by name. -/
def groups : List (String × (List String → Except Refusal Command)) :=
  [("ref", readGroup .reference [("infer", readPageName), ("render", readReference)]),
   ("config", readGroup .settings [("show", readSettings)])]

/-- The format that the words ask for. -/
def readFormat (words : Words) : Except Refusal DataFormat :=
  let name := (words.value? "display").getD "yaml"
  if DataFormat.names.contains name then .ok (.ofWishes [name]) else .error (.format name)

/-- The whole command line. An unknown group is noticed before an unknown format, and an unknown
format before anything inside the group. -/
def readRequest (words : List String) : Except Refusal Request := do
  let read ← readAt [⟨"display", some 'd', true⟩] false words
  if read.has "help" then return ⟨.help .program, .yaml⟩
  else
    match read.arguments with
    | [] =>
      let format ← readFormat read
      return ⟨.help .program, format⟩
    | name :: rest =>
      match groups.lookup name with
      | some group =>
        let format ← readFormat read
        return ⟨← group rest, format⟩
      | none => throw (.usage (.noSuchCommand name))

end CrossRef.CommandLine
