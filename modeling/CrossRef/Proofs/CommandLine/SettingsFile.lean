import CrossRef.CommandLine.Run

/-!
What any content of the settings file does to the commands: it is loaded, or its fault is reported
by a finished report, unless it is JSON text of something other than an object. Then the fault
stops every command.
-/

namespace CrossRef

namespace Settings

/-- Loading gave settings, or a fault that commands report. -/
def IsAnswered (loaded : Except LoadFault Settings) : Prop :=
  ∀ fault, loaded = .error fault → fault.isReported = true

/-- The bytes are JSON text, but of no object. -/
def SpellsNoObject (bytes : List UInt8) : Prop :=
  ∃ text value, Text.decodeUtf8 bytes = .ok text ∧ Json.read (readLines text) = .ok value ∧
    ∀ members, value ≠ .object members

/-- A text that starts with a text is not empty when its start is not. -/
theorem append_ne_empty {start : String} (rest : String) (visible : start ≠ "") :
    start ++ rest ≠ "" :=
  fun empty => visible (String.append_eq_empty_iff.mp empty).1

/-- Every fault has a text. -/
theorem LoadFault.message_ne_empty (fault : LoadFault) : fault.message ≠ "" := by
  cases fault with
  | encoding fault =>
      exact append_ne_empty _ (append_ne_empty _ (append_ne_empty _ (by decide)))
  | malformed path obstacle =>
      cases obstacle with
      | fault cause place =>
          exact append_ne_empty _ (append_ne_empty _ (append_ne_empty _ (by decide)))
      | tooManyDigits count =>
          exact append_ne_empty _ (append_ne_empty _ (append_ne_empty _ (append_ne_empty _
            (by decide))))
  | notAnObject typeName | broken violation => exact append_ne_empty _ (by decide)
  | isDirectory path => exact append_ne_empty _ (by decide)

/-- A value that is read from JSON text is answered exactly when it is an object. -/
theorem isAnswered_ofText_iff (path : String) (text : List Char) :
    IsAnswered (ofText path text) ↔
      ¬∃ value, Json.read text = .ok value ∧ ∀ members, value ≠ .object members := by
  cases read : Json.read text with
  | error obstacle =>
      have malformed : ofText path text = .error (.malformed path obstacle) := by
        rw [ofText, read]
      simp [malformed, IsAnswered, LoadFault.isReported]
  | ok value =>
      cases value with
      | object members =>
          have checked : ofText path text = (ofMembers members).mapError .broken := by
            rw [ofText, read]
          have answered : IsAnswered (ofText path text) := by
            cases settled : ofMembers members with
            | ok settings =>
                have loaded : ofText path text = .ok settings := by
                  rw [checked, settled]
                  rfl
                simp [loaded, IsAnswered]
            | error violation =>
                have broken : ofText path text = .error (.broken violation) := by
                  rw [checked, settled]
                  rfl
                simp [broken, IsAnswered, LoadFault.isReported]
          simp [answered]
      | _ => simp [ofText, read, IsAnswered, LoadFault.isReported]

/-- The content of a file is answered unless it is JSON text of no object. -/
theorem isAnswered_ofBytes_iff (path : String) (bytes : List UInt8) :
    IsAnswered (ofBytes path bytes) ↔ ¬SpellsNoObject bytes := by
  cases decoded : Text.decodeUtf8 bytes with
  | error fault => simp [ofBytes, decoded, SpellsNoObject, IsAnswered, LoadFault.isReported]
  | ok text =>
      have read : ofBytes path bytes = ofText path (readLines text) := by
        rw [ofBytes, decoded]
      rw [read, isAnswered_ofText_iff]
      simp [SpellsNoObject, decoded]

/-- The level of the settings that were loaded, or the one to fall back on. -/
def levelOf : Except LoadFault Settings → String
  | .ok settings => settings.level
  | .error _ => "INFO"

end Settings

namespace Report

/-- A report that went through: its progress is complete, it has a result, and its output lists no
error after a success and one error after a failure. -/
structure IsFinished (report : Report) : Prop where
  complete : report.progress.getLast? = some (1.0, "Complete")
  hasResult : report.result ≠ ""
  errors : Entries.get? report.output "errors" =
    some (.ofStrings (if report.success then [] else [report.result]))

/-- A report that fails on a fault is finished when its progress is complete. -/
theorem isFinished_fail {report : Report} {output : Entries Json} (fault : Settings.LoadFault)
    (complete : report.progress.getLast? = some (1.0, "Complete"))
    (distinct : ("errors" :: Entries.names output).Nodup) :
    (report.fail fault.message output).IsFinished where
  complete := complete
  hasResult := fault.message_ne_empty
  errors := by
    change Entries.get? (Entries.ofList (("errors", .ofStrings [fault.message]) :: output)) _ = _
    rw [Entries.ofList_of_nodup (by exact distinct)]
    simp [Entries.get?, fail]

/-- The report on a reference is finished for all settings. -/
theorem isFinished_ofReference (request : ReferenceRequest) (settings : Settings) :
    (ofReference request settings).IsFinished where
  complete := rfl
  hasResult := by simp [ofReference]
  errors := rfl

/-- The report on a reference is finished exactly when the settings are answered. -/
theorem isFinished_reference_iff (request : ReferenceRequest) (home : SettingsHome) :
    (∃ report, reference request home = .ok report ∧ report.IsFinished) ↔
      Settings.IsAnswered (Settings.load home) := by
  cases loaded : Settings.load home with
  | ok settings =>
      simp [reference, loaded, Settings.IsAnswered, isFinished_ofReference]
  | error fault =>
      have finished : (ofReferenceFault fault).IsFinished :=
        isFinished_fail fault rfl (by decide)
      cases reported : fault.isReported <;>
        simp [reference, loaded, reported, Settings.IsAnswered, finished]

/-- The report on the settings is finished exactly when they are answered. -/
theorem isFinished_settings_iff (home : SettingsHome) :
    (∃ report, settings home = .ok report ∧ report.IsFinished) ↔
      Settings.IsAnswered (Settings.load home) := by
  cases loaded : Settings.load home with
  | ok found =>
      have named : (if home.hasSettings then "Configuration loaded from " ++ home.settingsPath
          else "Using defaults") ≠ "" := by
        split
        · exact Settings.append_ne_empty _ (by decide)
        · decide
      simp only [settings, loaded, Settings.IsAnswered, reduceCtorEq, false_imp_iff, implies_true,
        iff_true]
      exact ⟨_, rfl, ⟨rfl, named, rfl⟩⟩
  | error fault =>
      cases reported : fault.isReported with
      | false => simp [settings, loaded, reported, Settings.IsAnswered]
      | true =>
          simp only [settings, loaded, reported, Settings.IsAnswered, if_true]
          have distinct : ["errors", "config_path", "content"].Nodup := by decide
          refine iff_of_true ⟨_, rfl, isFinished_fail fault rfl distinct⟩ ?_
          rintro other ⟨⟩
          exact reported

end Report

namespace CommandLine

open Settings

/-- When the settings are answered, the log is opened with their level or the one to fall back
on. -/
theorem logLevel_of_isAnswered {home : SettingsHome} (answered : IsAnswered (load home)) :
    logLevel home = .ok (levelOf (load home)) := by
  cases loaded : load home with
  | ok settings => rw [logLevel, loaded, levelOf]
  | error fault => simp [logLevel, loaded, levelOf, answered fault loaded]

/-- When the settings are not answered, no level is found. -/
theorem logLevel_of_not_isAnswered {home : SettingsHome} (silent : ¬IsAnswered (load home)) :
    ∃ fault, logLevel home = .error fault := by
  cases loaded : load home with
  | ok settings => simp [IsAnswered, loaded] at silent
  | error fault => exact ⟨fault, by simp_all [logLevel, IsAnswered]⟩

/-- The log has the level of the settings, or the one to fall back on, exactly when the settings
are answered. -/
theorem logLevel_eq_iff (home : SettingsHome) :
    logLevel home = .ok (levelOf (load home)) ↔ IsAnswered (load home) := by
  refine ⟨fun level => Classical.byContradiction fun silent => ?_, logLevel_of_isAnswered⟩
  obtain ⟨fault, failed⟩ := logLevel_of_not_isAnswered silent
  cases failed.symm.trans level

/-- The command line runs to its end, whatever its words are, exactly when the settings are
answered. -/
theorem run_eq_ok_iff (words : List String) (home : SettingsHome) (clock : String)
    (console : Console) :
    (∃ outcome, run words home clock console = .ok outcome) ↔ IsAnswered (load home) := by
  by_cases answered : IsAnswered (load home)
  · refine iff_of_true ?_ answered
    rw [run, logLevel_of_isAnswered answered]
    cases readRequest words with
    | ok request => exact ⟨_, rfl⟩
    | error refusal => exact ⟨_, rfl⟩
  · obtain ⟨fault, failed⟩ := logLevel_of_not_isAnswered answered
    refine iff_of_false ?_ answered
    rintro ⟨outcome, ran⟩
    rw [run, failed] at ran
    cases ran

/-! Main result. -/

/-- Whatever bytes the settings file holds: unless they are JSON text of no object they are loaded,
or their fault is one that commands report; every report on a reference and the report on the
settings is finished; and the command line runs to its end, with the level of the settings for its
log or the one to fall back on. JSON text of no object does none of this. Values in the text may lie
at any depth, as no limit on recursion is modelled. -/
theorem settingsFile_answered_iff (path : String) (bytes : List UInt8) (temporary : Slot) :
    let home : SettingsHome := { path, settings := .file bytes, temporary }
    (IsAnswered (load home) ↔ ¬SpellsNoObject bytes) ∧
    (∀ request, (∃ report, Report.reference request home = .ok report ∧ report.IsFinished) ↔
      ¬SpellsNoObject bytes) ∧
    ((∃ report, Report.settings home = .ok report ∧ report.IsFinished) ↔
      ¬SpellsNoObject bytes) ∧
    (logLevel home = .ok (levelOf (load home)) ↔ ¬SpellsNoObject bytes) ∧
    ∀ words clock console,
      (∃ outcome, run words home clock console = .ok outcome) ↔ ¬SpellsNoObject bytes := by
  intro home
  have answered : IsAnswered (load home) ↔ ¬SpellsNoObject bytes :=
    isAnswered_ofBytes_iff home.settingsPath bytes
  exact ⟨answered, fun request => (Report.isFinished_reference_iff request home).trans answered,
    (Report.isFinished_settings_iff home).trans answered, (logLevel_eq_iff home).trans answered,
    fun words clock console => (run_eq_ok_iff words home clock console).trans answered⟩

/-- A home in which the settings file holds the JSON text of an empty list. -/
def listHome : SettingsHome := { path := "/home/user", settings := .file [0x5B, 0x5D] }

/-- The fault of a list is none that commands report, so it stops both reports and the log. -/
theorem settingsFile_of_list :
    ¬IsAnswered (load listHome) ∧
    Report.settings listHome = .error (.notAnObject "list") ∧
    (∀ request, Report.reference request listHome = .error (.notAnObject "list")) ∧
    logLevel listHome = .error (.notAnObject "list") := by
  have loaded : load listHome = .error (.notAnObject "list") := rfl
  refine ⟨fun answered => ?_, rfl, fun request => rfl, rfl⟩
  cases answered _ loaded

end CommandLine

end CrossRef
