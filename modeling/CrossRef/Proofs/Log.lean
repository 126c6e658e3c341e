import CrossRef.Log
import CrossRef.Proofs.Document.Addresses

/-!
The log file: whatever is configured, issued and bound in whatever order, the file that the first
request opens holds the records that were issued after it and reach its threshold, each of them
once and in their order.
-/

namespace CrossRef

instance : DecidablePred IsWebAddress :=
  fun url => decidable_of_iff _ (Admission.isExternal_iff url.toList)

/-- A severity as a threshold admits the records that are as grave. -/
def Severity.admits (threshold : Severity) (record : Record) : Bool :=
  decide (threshold.rank ≤ record.severity.rank)

/-- The file after some more records were written to it. -/
def LogFile.extended (file : LogFile) (records : List Record) : LogFile :=
  { file with records := file.records ++ records }

namespace Log

/-- The record about an address that a reference does not keep. -/
def discarded (url : String) : Record where
  logger := "ref"
  severity := .debug
  message := "Discarding reference URL " ++ Text.quoted url ++ ": not an external http(s) link"

/-- The record that a step issues. A reference issues one when its scope declares an address that is
neither empty nor a web address. -/
def Step.record? : Step → Option Record
  | .configure .. | .bind none => none
  | .issue record => some record
  | .bind (some url) => if url = "" ∨ IsWebAddress url then none else some (discarded url)

/-- A request that opens the file, with the steps after it. -/
structure Opening where
  path : String
  level : String
  later : List Step

/-- The first request among some steps. -/
def opening? : List Step → Option Opening
  | [] => none
  | .configure path level :: later => some ⟨path, level, later⟩
  | _ :: later => opening? later

/-- The file that a request opens. -/
def Opening.file (opening : Opening) : LogFile where
  path := opening.path
  threshold := .ofLevelName opening.level

/-! Single steps. -/

/-- An open file takes the records that its threshold admits. -/
theorem write_open (file : LogFile) (record : Record) :
    write ⟨some file⟩ record = ⟨some (file.extended ([record].filter file.threshold.admits))⟩ := by
  rw [write, List.filter_cons, List.filter_nil, Severity.admits]
  by_cases admitted : file.threshold.rank ≤ record.severity.rank
  · simp only [admitted, if_true, decide_true]
    rfl
  · simp only [admitted, if_false, decide_false, Bool.false_eq_true, LogFile.extended,
      List.append_nil]

/-- The notice about an address is the record that the binding issues. -/
theorem noteAdmission_eq (log : Log) (url : Option String) :
    log.noteAdmission (.ofUrl? url) = ((Step.bind url).record?.map log.write).getD log := by
  cases url with
  | none => rfl
  | some url =>
      rw [Admission.ofUrl?, Step.record?]
      by_cases empty : url = ""
      · subst empty
        rfl
      · have filled : url.isEmpty = false := by simpa using empty
        by_cases external : IsWebAddress url
        · have kept : Admission.isExternal url.toList = true :=
            (Admission.isExternal_iff url.toList).mpr external
          simp only [filled, kept, external, or_true, if_true, Bool.false_eq_true, if_false]
          rfl
        · have dropped : ¬Admission.isExternal url.toList = true :=
            mt (Admission.isExternal_iff url.toList).mp external
          simp only [filled, dropped, external, empty, or_false, if_false, Bool.false_eq_true]
          rfl

/-- A step adds the record that it issues to an open file, if the threshold admits it. -/
theorem step_open (file : LogFile) (next : Step) :
    step ⟨some file⟩ next =
      ⟨some (file.extended (next.record?.toList.filter file.threshold.admits))⟩ := by
  have nothing : (⟨some file⟩ : Log) = ⟨some (file.extended [])⟩ := by
    rw [LogFile.extended, List.append_nil]
  cases next with
  | configure path level => exact nothing
  | issue record => exact write_open file record
  | bind url =>
      rw [step, noteAdmission_eq]
      cases issued : (Step.bind url).record? with
      | none => exact nothing
      | some record => exact write_open file record

/-- Without a file only a request leaves a trace. -/
theorem step_closed (next : Step) :
    step {} next = ⟨(opening? [next]).map Opening.file⟩ := by
  cases next with
  | configure path level => rfl
  | issue record => rfl
  | bind url =>
      rw [step, noteAdmission_eq]
      cases (Step.bind url).record? <;> rfl

/-! Runs. -/

/-- Several steps add the records that they issue to an open file, those that the threshold
admits. -/
theorem run_open (file : LogFile) (steps : List Step) :
    run ⟨some file⟩ steps =
      ⟨some (file.extended ((steps.filterMap Step.record?).filter file.threshold.admits))⟩ := by
  -- The file that a step leaves has the path and the threshold that it had.
  induction steps generalizing file with
  | nil => simp [run, LogFile.extended]
  | cons next later ih =>
      have whole : (next :: later).filterMap Step.record? =
          next.record?.toList ++ later.filterMap Step.record? := by
        cases issued : next.record? <;> simp [issued]
      rw [run, List.foldl_cons, step_open]
      change run _ later = _
      rw [ih, whole, List.filter_append, LogFile.extended, LogFile.extended, LogFile.extended,
        List.append_assoc]

/-- Without a file, steps leave what the first request among them opens. -/
theorem run_closed (steps : List Step) :
    run {} steps =
      ⟨(opening? steps).map fun opening => opening.file.extended
        ((opening.later.filterMap Step.record?).filter opening.file.threshold.admits)⟩ := by
  induction steps with
  | nil => rfl
  | cons next later ih =>
      rw [run, List.foldl_cons, step_closed]
      change run _ later = _
      cases next with
      | configure path level => exact run_open _ later
      | issue record => exact ih
      | bind url => exact ih

/-- A run may be stopped and taken up again. -/
theorem run_append (log : Log) (first later : List Step) :
    run log (first ++ later) = run (run log first) later :=
  List.foldl_append

/-- After a request the file is open. -/
theorem exists_file_configure (log : Log) (path level : String) :
    ∃ file, log.configure path level = ⟨some file⟩ := by
  obtain ⟨found⟩ := log
  cases found with
  | none => exact ⟨_, rfl⟩
  | some file => exact ⟨file, rfl⟩

/-- A request after another one may be left out. -/
theorem run_configure_again (log : Log) (path level : String) (between : List Step)
    (otherPath otherLevel : String) (later : List Step) :
    run log (.configure path level :: (between ++ .configure otherPath otherLevel :: later)) =
      run log (.configure path level :: (between ++ later)) := by
  obtain ⟨file, opened⟩ := exists_file_configure log path level
  change run (log.configure path level) _ = run (log.configure path level) _
  rw [opened, run_open, run_open, List.filterMap_append, List.filterMap_append]
  rfl

/-! Main result. -/

/-- Whatever steps happen to a log, in whatever order: the first request opens the file at its path
and with the threshold of its level, and the file holds the records that the steps after it issue
and the threshold admits, once each and in their order. A reference that is bound issues one record
exactly when its scope declares an address that is neither empty nor a web address, and a request
after the first one changes nothing. -/
theorem run_holds_admitted :
    (∀ steps : List Step,
      (run {} steps).file = (opening? steps).map fun opening =>
        { path := opening.path
          threshold := .ofLevelName opening.level
          records := (opening.later.filterMap Step.record?).filter
            (Severity.ofLevelName opening.level).admits }) ∧
    (∀ (url : Option String) (record : Record),
      (Step.bind url).record? = some record ↔
        ∃ text, url = some text ∧ text ≠ "" ∧ ¬IsWebAddress text ∧ record = discarded text) ∧
    ∀ (before : List Step) (path level : String) (between : List Step)
      (otherPath otherLevel : String) (later : List Step),
      run {} (before ++ .configure path level ::
          (between ++ .configure otherPath otherLevel :: later)) =
        run {} (before ++ .configure path level :: (between ++ later)) := by
  refine ⟨fun steps => congrArg Log.file (run_closed steps), fun url record => ?_, ?_⟩
  · cases url with
    | none => simp [Step.record?]
    | some url => simp [Step.record?, and_assoc, eq_comm]
  · intro before path level between otherPath otherLevel later
    rw [run_append, run_configure_again, ← run_append]

/-- The level of the first request is read in any case, what is issued before it is lost, and the
second request neither lowers the threshold nor doubles the records. -/
example :
    (run {} [.issue ⟨"ref", .error, "early"⟩, .configure "a.log" "wArN", .bind (some "ftp://x"),
      .configure "b.log" "DEBUG", .issue ⟨"", .critical, "late"⟩, .issue ⟨"x.y", ⟨35⟩, "odd"⟩,
      .bind (some "ftp://x")]).file.map (fun file => (file.path, file.records.map Record.text)) =
      some ("a.log", ["btex. - CRITICAL - late", "btex.x.y - Level 35 - odd"]) := by
  decide +kernel

end Log

end CrossRef
