import CrossRef.Report.Screen
import Mathlib.Data.List.Forall2

/-!
What the screen shows of a report that is shown to its end: each notice as its markup is shown on the
console, and the output as it is.
-/

namespace CrossRef

variable {console : Console}

namespace Screen

/-- The screen behind further lines and further data. -/
def extended (screen : Screen) (lines : List String) (data : String) : Screen where
  data := screen.data ++ data
  notices := screen.notices ++ String.join (lines.map (· ++ "\n"))

/-- Notices with data behind them are printed to the end exactly when each of them can be shown. -/
theorem printAll_notices_iff (screen final : Screen) (markups : List String) (data : String) :
    screen.printAll (markups.map .notice ++ [.data data]) console = (final, none) ↔
      ∃ lines,
        List.Forall₂ (fun markup line => Markup.shown console markup = .ok line) markups lines ∧
          final = screen.extended lines data := by
  induction markups generalizing screen with
  | nil => simp [printAll, print, extended, eq_comm]
  | cons markup rest ih =>
      simp only [List.map_cons, List.cons_append, List.forall₂_cons_left_iff]
      rw [printAll, print]
      cases read : Markup.shown console markup with
      | error fault => simp [Except.map]
      | ok line =>
          simp only [Except.map]
          rw [ih]
          simp [extended, String.append_assoc]

/-- Every element of a list is related to something exactly when the list is related to a list. -/
theorem exists_forall₂_iff {α β : Type} {related : α → β → Prop} {list : List α} :
    (∃ others, List.Forall₂ related list others) ↔
      ∀ element ∈ list, ∃ other, related element other := by
  induction list with
  | nil => simp
  | cons first rest ih =>
      rw [List.forall_mem_cons, ← ih]
      constructor
      · rintro ⟨_, whole⟩
        obtain ⟨other, others, head, tail, -⟩ := List.forall₂_cons_left_iff.mp whole
        exact ⟨⟨other, head⟩, others, tail⟩
      · rintro ⟨⟨other, head⟩, others, tail⟩
        exact ⟨other :: others, .cons head tail⟩

/-- Up to a fault in a notice no data are printed. -/
theorem data_of_printAll_fault {screen final : Screen} {markups : List String} {data : String}
    {fault : Markup.Fault}
    (broken :
      screen.printAll (markups.map .notice ++ [.data data]) console = (final, some fault)) :
    final.data = screen.data := by
  induction markups generalizing screen with
  | nil => simp [printAll, print] at broken
  | cons markup rest ih =>
      rw [List.map_cons, List.cons_append, printAll, print] at broken
      cases read : Markup.shown console markup with
      | error obstacle =>
          rw [read] at broken
          cases broken
          rfl
      | ok line =>
          rw [read] at broken
          -- A notice adds no data.
          have kept := ih broken
          exact kept

end Screen

/-- What a report tells its reader: what is being done, how far it has come, and the result. -/
inductive Message
  | announcement (text : String)
  | progress (share : Binary64) (text : String)
  | result (success : Bool) (text : String)

namespace Message

/-- The text that is told. -/
def text : Message → String
  | announcement text => text
  | progress _ text => text
  | result _ text => text

/-- A message as it is printed: behind the time of day, and with a sign in colour. -/
def markup (clock : String) (message : Message) : String :=
  "[dim]" ++ clock ++ "[/dim] " ++ match message with
    | announcement text => "[blue]i[/blue] " ++ text
    | progress share text => "Progress: " ++ text ++ " (" ++ share.percentText ++ ")"
    | result true text => "[green]✓[/green] " ++ text
    | result false text => "[red]✗[/red] " ++ text

end Message

namespace Report

/-- The messages of a report in order. -/
def messages (report : Report) : List Message :=
  .announcement report.announcement ::
    report.progress.map (fun step => .progress step.1 step.2) ++
    [.result report.success report.result]

/-- The messages of a report as they are printed. -/
def markups (report : Report) (clock : String) : List String :=
  report.messages.map (Message.markup clock)

/-- The text that the output is printed as. -/
def outputText (report : Report) (format : DataFormat) (page : Option (Entries Json → String)) :
    String :=
  match page with
  | some page => if report.success then page report.output else format.text (.object report.output)
  | none => format.text (.object report.output)

/-- Each message is a notice, and the output is data. -/
theorem prints_eq (report : Report) (clock : String) (format : DataFormat)
    (page : Option (Entries Json → String)) :
    report.progressPrints clock ++ [report.resultPrint clock, report.outputPrint format page] =
      (report.markups clock).map .notice ++ [.data (report.outputText format page)] := by
  have last : report.outputPrint format page = .data (report.outputText format page) := by
    rw [outputPrint.eq_def, outputText.eq_def]
    split
    · split <;> rfl
    · rfl
  have result : report.resultPrint clock =
      .notice (Message.markup clock (.result report.success report.result)) := by
    rw [resultPrint]
    cases report.success <;> rfl
  rw [last, result, progressPrints, markups, messages]
  simp [Print.status, Print.progress, Print.timed, Message.markup, progressTexts]

/-- A report exits with its code exactly when it has a result and each message can be shown, and then
the output stands beside the messages. -/
theorem shown_eq_exit_iff (report : Report) (clock : String) (format : DataFormat)
    (page : Option (Entries Json → String)) (console : Console) (screen : Screen) (code : Nat) :
    report.shown clock format page console = (screen, .exit code) ↔
      report.result ≠ "" ∧ code = report.exitCode ∧
        ∃ lines, List.Forall₂ (fun markup line => Markup.shown console markup = .ok line)
            (report.markups clock) lines ∧
          screen = Screen.extended {} lines (report.outputText format page) := by
  by_cases blank : report.result = ""
  · simp only [shown, blank, String.isEmpty_iff, if_true]
    split <;> simp
  · rw [← Screen.printAll_notices_iff, ← prints_eq]
    simp only [shown, blank, String.isEmpty_iff, if_false]
    split
    · next found => simp [found]
    · next found => simp [found, blank, and_comm, eq_comm]

/-- The markup of every message can be read: each closing tag has its opening one, and the console
refuses no style and no parameters of a handler. -/
def IsReadable (report : Report) (clock : String) (console : Console) : Prop :=
  ∀ message ∈ report.messages, ∃ text, Markup.read console (message.markup clock) = .ok text

/-- A report with a result comes to its exit, with its own code and its output as data, exactly when
it is readable. -/
theorem exists_shown_iff {report : Report} (clock : String) (format : DataFormat)
    (page : Option (Entries Json → String)) (console : Console) (hasResult : report.result ≠ "") :
    (∃ screen, report.shown clock format page console = (screen, .exit report.exitCode) ∧
      screen.data = report.outputText format page) ↔ report.IsReadable clock console := by
  have readable : report.IsReadable clock console ↔
      ∀ message ∈ report.messages, ∃ line,
        Markup.shown console (message.markup clock) = .ok line := by
    refine forall₂_congr fun message _ => ?_
    rw [Markup.shown]
    cases Markup.read console (message.markup clock) <;> simp [Except.map]
  rw [readable, ← Screen.exists_forall₂_iff]
  simp only [shown_eq_exit_iff, markups, List.forall₂_map_left_iff]
  constructor
  · rintro ⟨screen, ⟨-, -, lines, read, -⟩, -⟩
    exact ⟨lines, read⟩
  · rintro ⟨lines, read⟩
    exact ⟨_, ⟨hasResult, trivial, lines, read, rfl⟩, by simp [Screen.extended]⟩

/-- A report with a result that does not come to its exit has printed no data. -/
theorem data_of_shown {report : Report} {clock : String} {format : DataFormat}
    {page : Option (Entries Json → String)} {screen : Screen} {ending : Ending}
    (hasResult : report.result ≠ "")
    (shown : report.shown clock format page console = (screen, ending))
    (broken : ∀ code, ending ≠ .exit code) : screen.data = "" := by
  simp only [Report.shown, hasResult, String.isEmpty_iff, if_false] at shown
  rw [prints_eq] at shown
  split at shown
  · next found =>
      cases shown
      exact Screen.data_of_printAll_fault found
  · cases shown
    exact absurd rfl (broken _)

end Report

end CrossRef
