import CrossRef.CommandLine.Run
import CrossRef.HomePath
import Std.Time.Format

/-!
The program: it takes the environment, the settings file and the time, runs the command line, and
writes what the run leaves behind.
-/

namespace CrossRef

/-- What stands at a path. -/
def readSlot (path : String) : IO Slot := do
  try
    let bytes ← IO.FS.readBinFile path
    return .file bytes.toList
  catch
    | .noFileOrDirectory .. => return .absent
    | _ => return .directory

/-- The records of a run are added to the log file, each with the time. -/
def appendLog (time : String) (log : Log) : IO Unit := do
  match log.file with
  | some file =>
    IO.FS.withFile file.path .append fun handle =>
      file.records.forM fun record => handle.putStrLn (time ++ " - " ++ record.text)
  | none => return ()

/-- The command line is run in a home directory, with messages in lines of a width. -/
def runIn (path : String) (words : List String) (width : Nat) : IO UInt32 := do
  let now ← Std.Time.PlainDateTime.now
  let home : SettingsHome := { path, settings := ← readSlot ({ path : SettingsHome }).settingsPath }
  match CommandLine.run words home (now.format "HH:mm:ss") (.ofWidth width) with
  | .ok outcome =>
    IO.FS.createDirAll path
    appendLog (now.format "uuuu-MM-dd HH:mm:ss,SSS") outcome.log
    IO.eprint outcome.screen.notices
    IO.print outcome.screen.data
    return outcome.exitCode.toUInt32
  | .error fault =>
    IO.eprintln fault.message
    return 1

end CrossRef

/-- The home directory and the width of lines are taken from the environment. -/
def main (words : List String) : IO UInt32 := do
  let override ← IO.getEnv "BTEX_HOME"
  let userHome ← IO.getEnv "HOME"
  let workingDirectory ← IO.currentDir
  let width := ((← IO.getEnv "COLUMNS").bind String.toNat?).getD CrossRef.Console.usualWidth
  match CrossRef.HomePath.ofEnvironment? override (userHome.getD "") workingDirectory.toString with
  | some path => CrossRef.runIn path words width
  | none =>
    IO.eprintln "Could not determine home directory."
    return 1
