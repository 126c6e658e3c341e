import CrossRef.Proofs.CommandLine.HtmlPage
import CrossRef.Proofs.CommandLine.SettingsFile
import CrossRef.Proofs.Report.Verbatim
import CrossRef.Proofs.Terminal.Wrapping

/-!
Commands that show their report as it is. A report is printed as markup, so that its announcement,
its progress and its result are shown as they are only when they are literal, and only when the
console does not break their lines; a closing tag in them breaks the command off.
-/

namespace CrossRef

/-- Data are never printed as no text. -/
theorem DataFormat.text_ne_empty (format : DataFormat) (data : Json) : format.text data ≠ "" := by
  cases format with
  | yaml =>
      intro empty
      have start := (String.append_eq_empty_iff.mp empty).1
      simp [Yaml.Page.breakLine, Yaml.Page.breakWith] at start
  | json indent =>
      intro empty
      exact absurd (String.append_eq_empty_iff.mp empty).2 (by decide)

namespace CommandLine

open Markup (IsTimeOfDay)
open Settings (IsAnswered load)

/-- The report that a command shows, with the page that stands in for its output, if there is
one. -/
inductive Shows (home : SettingsHome) :
    Command → Report → Option (Entries Json → String) → Prop
  | pageName (text : String) (suffix : Option String) :
    Shows home (.pageName text suffix) (.ofPageName text suffix) none
  | reference {request : ReferenceRequest} {report : Report} (asPage : Bool)
    (reported : Report.reference request home = .ok report) :
    Shows home (.reference request asPage) report (if asPage then some pageOfOutput else none)
  | settings {report : Report} (reported : Report.settings home = .ok report) :
    Shows home .settings report none

section Reports

variable {home : SettingsHome} {clock : String} {console : Console} {command : Command}
  {format : DataFormat} {report : Report} {page : Option (Entries Json → String)}

/-- A command that shows a report does nothing else. -/
theorem Shows.runCommand_eq (shows : Shows home command report page) :
    runCommand home clock format console command =
      showReport clock format page report console := by
  cases shows with
  | pageName text suffix => rfl
  | reference asPage reported => rw [runCommand, reported]
  | settings reported => rw [runCommand, reported]

/-- A report with a result is shown as it is, with its exit code, exactly when it is literal and not
broken. -/
theorem showReport_eq_verbatim_iff (reliable : console.IsReliable)
    (time : IsTimeOfDay clock.toList) (hasResult : report.result ≠ "") :
    showReport clock format page report console =
        (report.verbatim clock format page, report.exitCode) ↔
      report.IsLiteral ∧ report.IsWhole clock console := by
  rw [← Report.shown_eq_verbatim_iff reliable time hasResult format page, showReport]
  rcases shown : report.shown clock format page console with ⟨screen, ending⟩
  -- A report that is broken off has printed no data, so that it is not shown as it is.
  have other (broken : ∀ code, ending ≠ .exit code) (reason : String) :
      brokenOff reason screen ≠ (report.verbatim clock format page, report.exitCode) := by
    intro same
    have code : report.success = false := by
      have code := congrArg Prod.snd same
      by_contra success
      simp [brokenOff, Report.exitCode, success] at code
    have data : screen.data = report.outputText format page := by
      simpa [brokenOff, plainLine, Report.verbatim, Screen.extended] using
        congrArg (·.1.data) same
    rw [Report.data_of_shown hasResult shown broken] at data
    have asData : report.outputText format page = format.text (.object report.output) := by
      cases page <;> simp [Report.outputText, code]
    exact format.text_ne_empty _ (asData.symm.trans data.symm)
  cases ending with
  | exit code => simp
  | markup fault => simpa using other (by simp) _
  | noResult => simpa using other (by simp) _

/-- A command line that asks for a report runs to its end and shows the report as it is, with its
exit code, exactly when the report is literal and not broken. -/
theorem run_eq_verbatim_iff (reliable : console.IsReliable) (time : IsTimeOfDay clock.toList)
    {words : List String} (asked : readRequest words = .ok ⟨command, format⟩)
    (shows : Shows home command report page) (answered : IsAnswered (load home))
    (hasResult : report.result ≠ "") :
    (∃ outcome, run words home clock console = .ok outcome ∧
        outcome.exitCode = report.exitCode ∧
        outcome.screen = report.verbatim clock format page) ↔
      report.IsLiteral ∧ report.IsWhole clock console := by
  obtain ⟨outcome, ran⟩ := (run_eq_ok_iff words home clock console).mpr answered
  have shown := runCommand_of_run asked ran
  rw [shows.runCommand_eq] at shown
  rw [← showReport_eq_verbatim_iff reliable time hasResult, shown, ran]
  simp [and_comm]

/-- A report on a success exits with success and prints its output exactly when it is readable. -/
theorem showReport_eq_success_iff (hasResult : report.result ≠ "")
    (success : report.exitCode = 0) :
    (∃ screen, showReport clock format page report console = (screen, 0) ∧
      screen.data = report.outputText format page) ↔ report.IsReadable clock console := by
  rw [← Report.exists_shown_iff clock format page console hasResult, showReport, success]
  rcases report.shown clock format page console with ⟨screen, ending⟩
  cases ending <;> simp [brokenOff]

/-- A command line that asks for a report on a success exits with success and prints the output
exactly when the report is readable. -/
theorem run_eq_success_iff {words : List String}
    (asked : readRequest words = .ok ⟨command, format⟩) (shows : Shows home command report page)
    (answered : IsAnswered (load home)) (hasResult : report.result ≠ "")
    (success : report.exitCode = 0) :
    (∃ outcome, run words home clock console = .ok outcome ∧ outcome.exitCode = 0 ∧
      outcome.screen.data = report.outputText format page) ↔
        report.IsReadable clock console := by
  obtain ⟨outcome, ran⟩ := (run_eq_ok_iff words home clock console).mpr answered
  have shown := runCommand_of_run asked ran
  rw [shows.runCommand_eq] at shown
  rw [← showReport_eq_success_iff hasResult success, shown, ran]
  simp

end Reports

/-- The page name of a text with a suffix. -/
def pageNameOf (text : String) (suffix : Option String) : String :=
  let paragraph := (Paragraph.ofText text).normalised
  paragraph.pageName suffix paragraph.edges.last

/-- The page name stands in the output of the report on it. -/
theorem page_ofPageName (text : String) (suffix : Option String) :
    Entries.get? (Report.ofPageName text suffix).output "page" =
      some (.string (pageNameOf text suffix)) :=
  rfl

/-- A report on a page name that is not empty is a success with a result. -/
theorem success_ofPageName {text : String} {suffix : Option String}
    (notEmpty : pageNameOf text suffix ≠ "") :
    (Report.ofPageName text suffix).exitCode = 0 ∧ (Report.ofPageName text suffix).result ≠ "" := by
  have success : (Report.ofPageName text suffix).success =
      !(pageNameOf text suffix).isEmpty := by
    unfold Report.ofPageName pageNameOf
    dsimp only
  have result : (Report.ofPageName text suffix).result =
      if (pageNameOf text suffix).isEmpty then "Inferred an empty page identifier"
      else "Inferred page " ++ Text.quoted (pageNameOf text suffix) := by
    unfold Report.ofPageName pageNameOf
    dsimp only
  have visible : (pageNameOf text suffix).isEmpty = false := by simpa using notEmpty
  rw [Report.exitCode, success, result, visible, if_neg Bool.false_ne_true]
  exact ⟨rfl, Settings.append_ne_empty _ (by decide)⟩

-- Eighty columns do not hold the announcement of forty letters.
example : ¬(Report.ofPageName (String.ofList (List.replicate 40 'x')) none).IsWhole "12:34:56"
    (.ofWidth 80) := by
  decide +kernel

end CommandLine

end CrossRef
