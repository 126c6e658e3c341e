import CrossRef.Reference.Binding

/-!
The log file: it is opened once, with the threshold of the first request, and takes the records at
or above the threshold from then on.
-/

namespace CrossRef

/-- The severity of a record is a number, the higher the graver. -/
structure Severity where
  rank : Int
  deriving DecidableEq, Repr

namespace Severity

def debug : Severity := ⟨10⟩

def info : Severity := ⟨20⟩

def warning : Severity := ⟨30⟩

def error : Severity := ⟨40⟩

def critical : Severity := ⟨50⟩

/-- The name of a severity in the file; a number without a name of its own is written out. -/
def name (severity : Severity) : String :=
  match severity.rank with
  | 0 => "NOTSET"
  | 10 => "DEBUG"
  | 20 => "INFO"
  | 30 => "WARNING"
  | 40 => "ERROR"
  | 50 => "CRITICAL"
  | rank => "Level " ++ toString rank

/-- The threshold for a level name in any case; an unknown name stands for information. -/
def ofLevelName (level : String) : Severity :=
  -- Beyond ASCII no character has a letter of the names that are looked up as its upper case.
  match String.ofList (level.toList.map Char.toUpper) with
  | "DEBUG" => debug
  | "WARN" => warning
  | "ERROR" => error
  | _ => info

end Severity

/-- A record of one logger. -/
structure Record where
  logger : String
  severity : Severity
  message : String
  deriving DecidableEq, Repr

/-- The text of a record in the file, its time aside. -/
def Record.text (record : Record) : String :=
  "btex." ++ record.logger ++ " - " ++ record.severity.name ++ " - " ++ record.message

/-- The file, once it is open. -/
structure LogFile where
  path : String
  threshold : Severity
  records : List Record := []

/-- The log of a process: without a file, records are lost. -/
structure Log where
  file : Option LogFile := none

namespace Log

/-- The first request opens the file; later ones change nothing. -/
def configure (log : Log) (path level : String) : Log :=
  match log.file with
  | some _ => log
  | none => ⟨some { path, threshold := .ofLevelName level }⟩

/-- A record is taken when there is a file and the record reaches the threshold. -/
def write (log : Log) (record : Record) : Log :=
  match log.file with
  | some file =>
    if file.threshold.rank ≤ record.severity.rank then
      ⟨some { file with records := file.records ++ [record] }⟩
    else log
  | none => log

/-- The record about an address that a reference does not keep. -/
def noteAdmission (log : Log) (admission : Admission) : Log :=
  match admission.notice? with
  | some message => log.write ⟨"ref", .debug, message⟩
  | none => log

/-- What happens to a log: it is configured, a record is issued, or a reference is bound to a scope
that declares an address. -/
inductive Step
  | configure (path level : String)
  | issue (record : Record)
  | bind (url : Option String)

/-- One step. -/
def step (log : Log) : Step → Log
  | .configure path level => log.configure path level
  | .issue record => log.write record
  | .bind url => log.noteAdmission (.ofUrl? url)

/-- Several steps, one after the other. -/
def run (log : Log) (steps : List Step) : Log :=
  steps.foldl step log

/-- The rank of the threshold; zero stands for none. -/
def rank (log : Log) : Nat :=
  match log.file with
  | some file => file.threshold.rank.toNat
  | none => 0

/-- The lines of the file, the times aside. -/
def lines (log : Log) : List String :=
  match log.file with
  | some file => file.records.flatMap fun record => record.text.splitOn "\n"
  | none => []

end Log

end CrossRef
