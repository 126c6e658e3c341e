import CrossRef.Proofs.Report.Screen
import CrossRef.Proofs.Terminal.Clock

/-!
Reports that are shown as they are: every message on a line of its own with its text unchanged, the
output as data, and the exit code of the report. That is what is shown exactly when the text of
every message is literal and the console breaks no line of it.
-/

namespace CrossRef

open Markup (IsLiteral IsThinned IsTimeOfDay IsStyle IsInert Leads styled isMark weight)

variable {console : Console}

/-! The parts of messages. -/

/-- A share in percent holds no marks and no brackets. -/
theorem Binary64.bare_percentText (value : Binary64) :
    ∀ c ∈ value.percentText.toList, isMark c = false ∧ c ≠ ']' := by
  have digits (number : Nat) : ∀ c ∈ Nat.toDigits 10 number, isMark c = false ∧ c ≠ ']' := by
    intro c member
    have digit := Nat.isDigit_of_mem_toDigits (by decide) (by decide) member
    refine ⟨(Emoji.of_isDigit digit).2.2, ?_⟩
    rintro rfl
    cases digit
  rw [percentText]
  split
  · exact List.forall_iff_forall_mem.mp (by decide)
  · split <;> exact List.forall_iff_forall_mem.mp (by decide)
  · next negative magnitude _ _ =>
      simp only [String.toList_ofList]
      generalize roundedQuotient (magnitude * 10) (Nat.pow 2 1074) = tenths
      have number : ∀ c ∈ Nat.toDigits 10 (tenths / 10) ++ '.' ::
          Nat.toDigits 10 (tenths % 10) ++ ['%'], isMark c = false ∧ c ≠ ']' := by
        intro c member
        simp only [List.mem_append, List.mem_cons, List.not_mem_nil, or_false] at member
        rcases member with (whole | rfl | tenth) | rfl
        · exact digits _ c whole
        · decide
        · exact digits _ c tenth
        · decide
      cases negative with
      | true => exact List.forall_mem_cons.mpr ⟨by decide, number⟩
      | false => exact number

namespace Message

/-- The line of a message whose text is shown as it is. -/
def line (clock : String) (message : Message) : String :=
  clock ++ " " ++ match message with
    | announcement text => "i " ++ text
    | progress share text => "Progress: " ++ text ++ " (" ++ share.percentText ++ ")"
    | result true text => "✓ " ++ text
    | result false text => "✗ " ++ text

/-- A text with a share behind it is literal when the text is. -/
theorem isLiteral_progress_iff (text : List Char) (share : Binary64) :
    IsLiteral ("Progress:".toList ++
        ' ' :: (text ++ ' ' :: ('(' :: (share.percentText.toList ++ [')'])))) ↔
      IsLiteral text := by
  have start : IsLiteral "Progress:".toList := by decide +kernel
  have bare : ∀ c ∈ '(' :: (share.percentText.toList ++ [')']), isMark c = false ∧ c ≠ ']' := by
    rw [List.forall_mem_cons, List.forall_mem_append, List.forall_mem_singleton]
    exact ⟨by decide, share.bare_percentText, by decide⟩
  have ending := Markup.isLiteral_of_bare fun c member => (bare c member).1
  have noEnd : ']' ∉ '(' :: (share.percentText.toList ++ [')']) :=
    fun member => (bare _ member).2 rfl
  rw [Markup.isLiteral_append_iff (Or.inl (by decide)), and_iff_right start,
    Markup.isLiteral_append_iff (Or.inr noEnd), and_iff_left ending]

/-- A message is a lead with a text behind it that is literal when the text of the message is. -/
def IsLed (console : Console) (clock : String) (message : Message) : Prop :=
  ∃ lead seen text, Leads console lead seen ∧ '\t' ∉ seen ∧
    message.markup clock = String.ofList (lead ++ text) ∧
    message.line clock = String.ofList (seen ++ text) ∧
    (IsLiteral text ↔ IsLiteral message.text.toList)

section Leads

variable (reliable : console.IsReliable) {clock : String} (time : IsTimeOfDay clock.toList)
include reliable time

omit time in
/-- The names of the styles of messages stand in tags. -/
theorem isStyle_of_mem {name : String} (member : name ∈ Console.messageStyles) :
    IsStyle console name.toList := by
  have names : ∀ name ∈ Console.messageStyles,
      name.toList.head?.any (fun c => c.isLower && !Text.isBlank c) = true ∧
        name.toList.all (fun c => c != '[' && c != ']' && c != '=') = true ∧
          Text.trim name.toList = name.toList := by
    decide +kernel
  obtain ⟨starts, inTag, trimmed⟩ := names name member
  exact ⟨starts, by simpa [and_assoc] using inTag, trimmed, reliable.known name member⟩

/-- The time of day leads a message, in a style of its own. -/
theorem leads_clock : Leads console (styled "dim".toList clock.toList) clock.toList := by
  have nothing : IsInert [] := Markup.isInert_of_bare (by simp)
  exact Markup.leads_styled (isStyle_of_mem reliable (by decide)) nothing time.isInert

/-- A sign in a style behind the time of day leads a message. -/
theorem isLed_of_sign {message : Message} (name : String) (member : name ∈ Console.messageStyles)
    (sign : Char) (bare : isMark sign = false)
    (written : (message.markup clock).toList =
      styled "dim".toList clock.toList ++ (' ' :: styled name.toList [sign]) ++
        ' ' :: message.text.toList)
    (shown : (message.line clock).toList =
      clock.toList ++ [' ', sign] ++ ' ' :: message.text.toList) :
    message.IsLed console clock := by
  have space : IsInert [' '] := Markup.isInert_of_bare (by simp [isMark, Markup.isDropped])
  have inert : IsInert [sign] := Markup.isInert_of_bare (by simpa using bare)
  have leads := (leads_clock reliable time).append
    (Markup.leads_styled (isStyle_of_mem reliable member) space inert)
  have noTab : '\t' ∉ clock.toList := fun member => (time.isInert.noControl _ member).1 rfl
  have signNoTab : '\t' ≠ sign := by
    rintro rfl
    cases bare
  refine ⟨_, _, _, leads, ?_, ?_, ?_, Markup.isLiteral_space_iff _⟩
  · simp [noTab, signNoTab]
  · rw [← String.toList_inj, String.toList_ofList]
    exact written
  · rw [← String.toList_inj, String.toList_ofList]
    exact shown

/-- Every message is led by the time of day and its sign. -/
theorem isLed (message : Message) : message.IsLed console clock := by
  cases message with
  | announcement announced =>
      exact isLed_of_sign reliable time "blue" (by decide) 'i' (by decide)
        (by simp [markup, styled, text]) (by simp [line, text])
  | progress share told =>
      refine ⟨_, _, _, leads_clock reliable time,
        fun member => (time.isInert.noControl _ member).1 rfl, ?_, ?_,
        (Markup.isLiteral_space_iff _).trans (isLiteral_progress_iff told.toList share)⟩
      · rw [← String.toList_inj]
        simp [markup, styled]
      · rw [← String.toList_inj]
        simp [line]
  | result success told =>
      cases success with
      | true =>
          exact isLed_of_sign reliable time "green" (by decide) '✓' (by decide)
            (by simp [markup, styled, text]) (by simp [line, text])
      | false =>
          exact isLed_of_sign reliable time "red" (by decide) '✗' (by decide)
            (by simp [markup, styled, text]) (by simp [line, text])

/-- A message is read with its text as it is exactly when the text is literal. -/
theorem read_markup_eq_ok_iff (message : Message) :
    Markup.read console (message.markup clock) = .ok (message.line clock).toList ↔
      IsLiteral message.text.toList := by
  obtain ⟨lead, seen, text, leads, noTab, markup, line, literal⟩ := isLed reliable time message
  rw [markup, line, String.toList_ofList, Markup.read_eq_ok_iff leads noTab, literal]

/-- A literal message is shown as its line is laid out. -/
theorem shown_markup_of_isLiteral {message : Message} (literal : IsLiteral message.text.toList) :
    Markup.shown console (message.markup clock) =
      .ok (String.ofList (console.laidOut (message.line clock).toList)) := by
  rw [Markup.shown, (read_markup_eq_ok_iff reliable time message).mpr literal]
  rfl

/-- What is shown of a message is not heavier than its line, and lighter unless it is literal. -/
theorem weight_of_shown_markup {message : Message} {shown : String}
    (found : Markup.shown console (message.markup clock) = .ok shown) :
    weight shown.toList ≤ weight (message.line clock).toList ∧
      (weight (message.line clock).toList ≤ weight shown.toList →
        IsLiteral message.text.toList) := by
  obtain ⟨lead, seen, text, leads, -, markup, line, -⟩ := isLed reliable time message
  cases read : Markup.read console (message.markup clock) with
  | error fault => simp [Markup.shown, read, Except.map] at found
  | ok inside =>
      rw [Markup.shown, read] at found
      cases found
      have thinned : IsThinned (message.line clock).toList inside := by
        rw [line, String.toList_ofList]
        rw [markup] at read
        exact Markup.isThinned_of_read leads read
      have laidOut := reliable.weight_laidOut_le inside
      rw [String.toList_ofList]
      refine ⟨laidOut.trans thinned.weight_le, fun atLeast => ?_⟩
      rw [thinned.eq_of_weight_le (atLeast.trans laidOut)] at read
      exact (read_markup_eq_ok_iff reliable time message).mp read

end Leads

end Message

/-! Screens. -/

/-- The characters of lines on the screen. -/
theorem toList_join_lines (lines : List String) :
    (String.join (lines.map (· ++ "\n"))).toList =
      (lines.map String.toList).flatMap (· ++ ['\n']) := by
  induction lines with
  | nil => rfl
  | cons line rest ih => simp_all

/-- The weight of lines on the screen. -/
def linesWeight (lines : List String) : Nat :=
  weight (String.join (lines.map (· ++ "\n"))).toList

/-- Line ends have no weight. -/
theorem linesWeight_cons (line : String) (rest : List String) :
    linesWeight (line :: rest) = weight line.toList + linesWeight rest := by
  have lineEnd : isMark '\n' = false := rfl
  simp [linesWeight, Markup.weight_cons, lineEnd]

section Lines

variable {whole lines : List String}
  (lighter : List.Forall₂ (fun text line => weight line.toList ≤ weight text.toList) whole lines)
include lighter

/-- Lines that are not heavier one by one are not heavier together. -/
theorem linesWeight_le : linesWeight lines ≤ linesWeight whole := by
  induction lighter with
  | nil => exact Nat.le_refl _
  | cons first _ ih =>
      rw [linesWeight_cons, linesWeight_cons]
      exact Nat.add_le_add first ih

/-- If together they have the same weight, each of them has. -/
theorem weight_le_of_linesWeight_le (same : linesWeight whole ≤ linesWeight lines) :
    List.Forall₂ (fun text line => weight text.toList ≤ weight line.toList) whole lines := by
  induction lighter with
  | nil => exact .nil
  | cons first rest ih =>
      have further := linesWeight_le rest
      rw [linesWeight_cons, linesWeight_cons] at same
      exact .cons (by omega) (ih (by omega))

end Lines

namespace Report

/-- The text of every message is literal. -/
def IsLiteral (report : Report) : Prop :=
  ∀ message ∈ report.messages, Markup.IsLiteral message.text.toList

instance (report : Report) : Decidable report.IsLiteral :=
  inferInstanceAs (Decidable (∀ message ∈ report.messages, Markup.IsLiteral message.text.toList))

/-- The console breaks no line of a message. -/
def IsWhole (report : Report) (clock : String) (console : Console) : Prop :=
  ∀ message ∈ report.messages, console.KeepsWhole (message.line clock).toList

/-- Every line of a message has room on the console. -/
def HasRoom (report : Report) (clock : String) (console : Console) : Prop :=
  ∀ message ∈ report.messages, console.HasRoom (message.line clock).toList

instance (report : Report) (clock : String) (console : Console) :
    Decidable (report.IsWhole clock console) :=
  inferInstanceAs (Decidable (∀ message ∈ report.messages,
    console.KeepsWhole (message.line clock).toList))

instance (report : Report) (clock : String) (console : Console) :
    Decidable (report.HasRoom clock console) :=
  inferInstanceAs (Decidable (∀ message ∈ report.messages,
    console.HasRoom (message.line clock).toList))

/-- The screen with the text of every message as it is, and the output. -/
def verbatim (report : Report) (clock : String) (format : DataFormat)
    (page : Option (Entries Json → String)) : Screen :=
  .extended {} (report.messages.map (Message.line clock)) (report.outputText format page)

section Shown

variable (reliable : console.IsReliable) {clock : String}
include reliable

/-- Messages that have room are not broken. -/
theorem isWhole_of_hasRoom {report : Report} (room : report.HasRoom clock console) :
    report.IsWhole clock console :=
  fun message member => reliable.keepsWhole (room message member)

/-- Messages that are not broken are not wider than the console. -/
theorem columns_le_of_isWhole {report : Report} (whole : report.IsWhole clock console) :
    ∀ message ∈ report.messages, ∀ line ∈ (message.line clock).toList.splitOn '\n',
      console.columns line ≤ console.width :=
  fun message member => reliable.columns_le_of_keepsWhole (whole message member)

variable (time : IsTimeOfDay clock.toList)
include time

/-- Lines that together are the messages of a report are shown for literal messages only. -/
theorem isLiteral_of_lines {report : Report} {lines : List String}
    (shown : List.Forall₂
      (fun message line => Markup.shown console (Message.markup clock message) = .ok line)
      report.messages lines)
    (same : String.join (lines.map (· ++ "\n")) =
      String.join ((report.messages.map (Message.line clock)).map (· ++ "\n"))) :
    report.IsLiteral := by
  have lighter : List.Forall₂ (fun text line => weight line.toList ≤ weight text.toList)
      (report.messages.map (Message.line clock)) lines := by
    rw [List.forall₂_map_left_iff]
    exact shown.imp fun message line found =>
      (Message.weight_of_shown_markup reliable time found).1
  have heavier := weight_le_of_linesWeight_le lighter
    (by rw [linesWeight, linesWeight, same])
  rw [List.forall₂_map_left_iff] at heavier
  intro message member
  obtain ⟨index, inside, rfl⟩ := List.mem_iff_getElem.mp member
  have bound : index < lines.length := shown.length_eq ▸ inside
  exact (Message.weight_of_shown_markup reliable time (shown.get inside bound)).2
    (heavier.get inside bound)

/-- A report with a result is shown as it is, and exits with its code, exactly when it is literal
and not broken. -/
theorem shown_eq_verbatim_iff {report : Report} (hasResult : report.result ≠ "")
    (format : DataFormat) (page : Option (Entries Json → String)) :
    report.shown clock format page console =
        (report.verbatim clock format page, .exit report.exitCode) ↔
      report.IsLiteral ∧ report.IsWhole clock console := by
  have laidOut (literal : report.IsLiteral) : List.Forall₂
      (fun message line => Markup.shown console (Message.markup clock message) = .ok line)
      report.messages (report.messages.map fun message =>
        String.ofList (console.laidOut (message.line clock).toList)) := by
    rw [List.forall₂_map_right_iff, List.forall₂_same]
    exact fun message member =>
      Message.shown_markup_of_isLiteral reliable time (literal message member)
  rw [shown_eq_exit_iff, markups]
  constructor
  · rintro ⟨-, -, lines, shown, same⟩
    rw [List.forall₂_map_left_iff] at shown
    have notices := congrArg Screen.notices same
    simp only [verbatim, Screen.extended, String.empty_append] at notices
    have literal := isLiteral_of_lines reliable time shown notices.symm
    -- The same markup is not shown in two ways.
    have unique := List.right_unique_forall₂'
      (fun message first second found other => Except.ok.inj (found.symm.trans other))
      shown (laidOut literal)
    let texts := report.messages.map fun message => (message.line clock).toList
    have unchanged : texts.flatMap (fun text => console.laidOut text ++ ['\n']) =
        texts.flatMap (· ++ ['\n']) := by
      have characters := congrArg String.toList notices
      rw [unique, toList_join_lines, toList_join_lines] at characters
      simpa [texts, List.flatMap_map, Function.comp_def] using characters.symm
    exact ⟨literal, fun message member =>
      reliable.keepsWhole_of_laidOut unchanged _ (List.mem_map_of_mem member)⟩
  · rintro ⟨literal, whole⟩
    refine ⟨hasResult, rfl, _, List.forall₂_map_left_iff.mpr (laidOut literal), ?_⟩
    have lines : report.messages.map (fun message =>
        String.ofList (console.laidOut (message.line clock).toList)) =
          report.messages.map (Message.line clock) := by
      refine List.map_congr_left fun message member => ?_
      rw [(whole message member).laidOut_eq, String.ofList_toList]
    rw [lines, verbatim]

end Shown

end Report

end CrossRef
