import CrossRef.Report.Basic
import CrossRef.Settings.File

/-!
The report on the settings in force.
-/

namespace CrossRef.Report

/-- The settings are loaded and shown. Faults that are not reported are passed on. -/
def settings (home : SettingsHome) : Except Settings.LoadFault Report :=
  let started : Report :=
    { announcement := "Loading configuration..."
      progress := [(0.2, "Loading configuration..."), (1.0, "Complete")] }
  let path := home.settingsPath
  match Settings.load home with
  | .ok settings =>
    .ok { started with
      result := if home.hasSettings then "Configuration loaded from " ++ path else "Using defaults"
      output :=
        [("errors", .array []), ("config_path", .string path), ("content", settings.toJson)]
      success := true }
  | .error fault =>
    if fault.isReported then
      .ok (started.fail fault.message [("config_path", .string path), ("content", .object [])])
    else .error fault

end CrossRef.Report
