import CrossRef.CommandLine.Run
import CrossRef.Proofs.Report.Screen
import CrossRef.Proofs.Terminal.ControlSequence
import CrossRef.Proofs.Text.Separator

/-!
A page of HTML on the screen, and what can be read back from it: the comment at its start ends at
the first mark that ends a comment, and names the kind of the reference and its page. The page
stands in the comment as it is, so that it is read back only if it does not end the comment itself.
-/

namespace CrossRef.CommandLine

open ControlSequence

namespace HtmlPage

/-- The mark that ends a comment. -/
def commentEnd : List Char := "-->".toList

/-- A kind, and perhaps a page, as they are named in a comment. -/
def naming (kind : List Char) : Option (List Char) → List Char
  | some page => kind ++ ' ' :: ("page=".toList ++ page)
  | none => kind

/-- The kind and the page that are named, if the page is not empty. -/
def readNaming? (named : List Char) : Option (List Char × Option (List Char)) :=
  let kind := named.takeWhile (· != ' ')
  match named.dropWhile (· != ' ') with
  | [] => some (kind, none)
  | rest =>
    match rest.dropPrefix? " page=".toList with
    | some (first :: page) => some (kind, some (first :: page))
    | _ => none

/-- The kind, the page and the HTML of a text that starts with a comment. The comment ends at the
first mark that ends a comment. -/
def read? (text : List Char) : Option (List Char × Option (List Char) × List Char) := do
  let behindStart ← text.dropPrefix? "<!-- ".toList
  let (inside, behindEnd) ← behindStart.dropInfix? commentEnd
  let named ← inside.dropSuffix? [' ']
  let (kind, page) ← readNaming? named
  let html ← behindEnd.dropPrefix? ['\n']
  return (kind, page, html)

/-! The parts of a page. -/

section Cuts

variable {α : Type} [BEq α] [LawfulBEq α]

/-- What stands at the start can be dropped, and nothing else. -/
theorem dropPrefix?_eq_some {whole start rest : List α} :
    whole.dropPrefix? start = some rest ↔ whole = start ++ rest := by
  simp [List.dropPrefix?_eq_some_iff]

/-- What stands at the end can be dropped, and nothing else. -/
theorem dropSuffix?_eq_some {whole rest ending : List α} :
    whole.dropSuffix? ending = some rest ↔ whole = rest ++ ending := by
  simp [List.dropSuffix?_eq_some_iff]

/-- A list is cut at the first mark in it: something that the mark does not contain stands before
the mark, and the mark does not occur before that. -/
theorem dropInfix?_eq_some {mark : List α} {separator : α} (other : separator ∉ mark)
    (start behind : List α) :
    (start ++ separator :: (mark ++ behind)).dropInfix? mark =
      some (start ++ [separator], behind) ↔ ¬mark <:+: start := by
  simp only [List.dropInfix?_eq_some_iff, beq_iff_eq]
  refine ⟨fun cut within => ?_, fun absent => ⟨⟨mark, by simp, rfl⟩, ?_⟩⟩
  · obtain ⟨before, after, rfl⟩ := within
    have later := cut.2 before mark (after ++ separator :: (mark ++ behind)) (by simp) rfl
    simp only [List.length_append, List.length_singleton] at later
    omega
  · rintro before found after whole rfl
    by_contra early
    simp only [List.length_append, List.length_singleton, ge_iff_le, not_le] at early
    -- The mark would start before the separator and end before it too.
    have starting : start <+: before ++ found ++ after := by
      rw [← whole]
      exact List.prefix_append _ _
    have inside : before <+: start :=
      List.prefix_of_prefix_length_le (by simp) starting (by omega)
    obtain ⟨between, rfl⟩ := inside
    have starts : found <+: between ++ separator :: (found ++ behind) := by
      refine ⟨after, ?_⟩
      simpa using whole.symm
    obtain ⟨rest, rfl⟩ := (Text.prefix_append_cons_iff other between _).mp starts
    exact absent ⟨before, rest, by simp⟩

end Cuts

/-- Naming is read back when the kind has no space and the page is not empty, and nothing else is
read. -/
theorem readNaming?_eq_some {named kind : List Char} {page : Option (List Char)} :
    readNaming? named = some (kind, page) ↔
      named = naming kind page ∧ ' ' ∉ kind ∧ page ≠ some [] := by
  have stops (name : List Char) (noSpace : ' ' ∉ name) : ∀ c ∈ name, (c != ' ') = true :=
    fun c member => bne_iff_ne.mpr fun equal => noSpace (equal ▸ member)
  constructor
  · intro read
    have whole := List.takeWhile_append_dropWhile (p := (· != ' ')) (l := named)
    have noSpace : ' ' ∉ named.takeWhile (· != ' ') :=
      fun member => by simpa using List.mem_takeWhile_imp member
    rw [readNaming?.eq_def] at read
    simp only at read
    split at read
    · next nothing =>
        cases read
        rw [nothing, List.append_nil] at whole
        exact ⟨whole.symm, noSpace, by simp⟩
    · split at read
      · next found =>
          cases read
          rw [dropPrefix?_eq_some.mp found] at whole
          exact ⟨whole.symm, noSpace, by simp⟩
      · cases read
  · rintro ⟨rfl, noSpace, notEmpty⟩
    cases page with
    | none =>
        have all := stops kind noSpace
        simp only [readNaming?, naming]
        rw [List.takeWhile_eq_self_iff.mpr all, List.dropWhile_eq_nil_iff.mpr all]
    | some page =>
        obtain ⟨first, rest, rfl⟩ : ∃ first rest, page = first :: rest :=
          List.exists_cons_of_ne_nil fun empty => notEmpty (congrArg some empty)
        have found : (' ' :: ("page=".toList ++ first :: rest)).dropPrefix? " page=".toList =
          some (first :: rest) := dropPrefix?_eq_some.mpr rfl
        have all := stops kind noSpace
        simp only [readNaming?, naming]
        rw [List.takeWhile_append_of_pos all, List.dropWhile_append_of_pos all]
        simp only [List.takeWhile_cons, List.dropWhile_cons, bne_self_eq_false, Bool.false_eq_true,
          if_false, List.append_nil]
        rw [found]

/-- A page is read from its text when nothing that is named ends the comment, and no other text is
read. -/
theorem read?_eq_some {text kind html : List Char} {page : Option (List Char)} :
    read? text = some (kind, page, html) ↔
      text = "<!-- ".toList ++ (naming kind page ++ ' ' :: (commentEnd ++ '\n' :: html)) ∧
        ' ' ∉ kind ∧ page ≠ some [] ∧ ¬commentEnd <:+: naming kind page := by
  have other : ' ' ∉ commentEnd := by decide
  simp only [read?, Option.bind_eq_bind, Option.bind_eq_some_iff, Prod.exists, Option.pure_def,
    Option.some.injEq, Prod.mk.injEq, dropPrefix?_eq_some, dropSuffix?_eq_some, readNaming?_eq_some]
  constructor
  · rintro ⟨_, rfl, _, _, cut, _, rfl, _, _, ⟨rfl, noSpace, notEmpty⟩, _, rfl, rfl, rfl, rfl⟩
    obtain ⟨⟨mark, whole, same⟩, -⟩ := List.dropInfix?_eq_some_iff.mp cut
    rw [beq_iff_eq] at same
    subst same whole
    rw [List.append_assoc, List.append_assoc, List.singleton_append] at cut
    exact ⟨by simp, noSpace, notEmpty, (dropInfix?_eq_some other _ _).mp cut⟩
  · rintro ⟨rfl, noSpace, notEmpty, absent⟩
    exact ⟨_, rfl, _, _, (dropInfix?_eq_some other _ _).mpr absent, _, rfl, _, _,
      ⟨rfl, noSpace, notEmpty⟩, _, rfl, rfl, rfl, rfl⟩

/-- A kind that is a single word ends no comment, so that only the page could. -/
theorem commentEnd_infix_naming {kind : List Char} (plain : ¬commentEnd <:+: kind)
    (page : Option (List Char)) :
    commentEnd <:+: naming kind page ↔ ∃ named, page = some named ∧ commentEnd <:+: named := by
  cases page with
  | none => simp [naming, plain]
  | some page =>
      have before : ¬commentEnd <:+: "page".toList := by decide
      have word : "page=".toList ++ page = "page".toList ++ '=' :: page := rfl
      rw [naming, Text.infix_append_cons_iff (by decide), word,
        Text.infix_append_cons_iff (by decide)]
      simp only [plain, before, false_or, Option.some.injEq, exists_eq_left']

/-! The page that is printed. -/

/-- A name of a page that stands in a comment as it is: it is not empty, does not end the comment,
and has no control sequences. -/
def IsPlain (page : String) : Prop :=
  page ≠ "" ∧ ¬commentEnd <:+: page.toList ∧ IsFree page.toList

/-- The text of a page is a comment that names the kind and a page that is not empty, a line end,
and the HTML. -/
theorem toList_htmlPage {page : Option String} (notEmpty : page ≠ some "") (kind html : String) :
    (htmlPage kind page html).toList = "<!-- ".toList ++
      (naming kind.toList (page.map String.toList) ++
        ' ' :: (commentEnd ++ '\n' :: html.toList)) := by
  cases page with
  | none => simp [htmlPage, naming, commentEnd]
  | some page =>
      have visible : page ≠ "" := fun empty => notEmpty (congrArg some empty)
      simp [htmlPage, naming, commentEnd, visible]

/-- Text without an escape in front of another text adds no control sequence. -/
theorem isFree_append_of_notMem {start : List Char} (noEscape : '\x1B' ∉ start)
    (rest : List Char) : IsFree (start ++ rest) ↔ IsFree rest :=
  Text.takesNothing_append_iff (fun _ behind other => after?_of_ne other behind) noEscape rest

/-- Control sequences stand in the page or in the HTML, and none goes from the one to the other. -/
theorem isFree_page_iff {kind : List Char} (noEscape : '\x1B' ∉ kind) (page : Option (List Char))
    (html : List Char) :
    IsFree ("<!-- ".toList ++ (naming kind page ++ ' ' :: (commentEnd ++ '\n' :: html))) ↔
      (∀ named ∈ page, IsFree named) ∧ IsFree html := by
  have behind : IsFree (' ' :: (commentEnd ++ '\n' :: html)) ↔ IsFree html :=
    @isFree_append_of_notMem " -->\n".toList (by decide) html
  rw [isFree_append_of_notMem (by decide), isFree_append_iff (by decide), behind]
  cases page with
  | none =>
      have word := isFree_append_of_notMem noEscape []
      rw [List.append_nil] at word
      simp [naming, word]
  | some page =>
      have start : '\x1B' ∉ kind ++ " page=".toList := by simp [noEscape]
      have named : naming kind (some page) = kind ++ " page=".toList ++ page := by simp [naming]
      rw [named, isFree_append_of_notMem start]
      simp

/-- What is printed of a page gives back its kind, its page and its HTML exactly when the name of
the page is plain and the HTML has no control sequences. -/
theorem read?_removed_htmlPage_iff {kind : String} (noSpace : ' ' ∉ kind.toList)
    (noEscape : '\x1B' ∉ kind.toList) (noEnd : ¬commentEnd <:+: kind.toList)
    (page : Option String) (html : String) :
    read? (removed (htmlPage kind page html).toList) =
        some (kind.toList, page.map String.toList, html.toList) ↔
      (∀ named ∈ page, IsPlain named) ∧ IsFree html.toList := by
  rw [read?_eq_some, commentEnd_infix_naming noEnd]
  constructor
  · rintro ⟨kept, -, notEmpty, absent⟩
    have visible : page ≠ some "" := by
      rintro rfl
      exact notEmpty rfl
    rw [← toList_htmlPage visible, removed_eq_self_iff, toList_htmlPage visible,
      isFree_page_iff noEscape] at kept
    refine ⟨?_, kept.2⟩
    rintro named rfl
    exact ⟨fun empty => visible (congrArg some empty),
      fun within => absent ⟨_, rfl, within⟩, kept.1 _ rfl⟩
  · rintro ⟨plain, free⟩
    have visible : page ≠ some "" := fun empty => (plain "" empty).1 rfl
    have kept : removed (htmlPage kind page html).toList = (htmlPage kind page html).toList := by
      rw [removed_eq_self_iff, toList_htmlPage visible, isFree_page_iff noEscape]
      refine ⟨fun named member => ?_, free⟩
      obtain ⟨text, rfl, rfl⟩ := Option.map_eq_some_iff.mp member
      exact (plain text rfl).2.2
    refine ⟨kept.trans (toList_htmlPage visible _ _), noSpace, fun empty => ?_, ?_⟩
    · obtain ⟨text, rfl, blank⟩ := Option.map_eq_some_iff.mp empty
      exact visible (congrArg some (String.toList_eq_nil_iff.mp blank))
    · rintro ⟨named, found, within⟩
      obtain ⟨text, rfl, rfl⟩ := Option.map_eq_some_iff.mp found
      exact (plain text rfl).2.1 within

end HtmlPage

open HtmlPage

/-- Every kind is a word of letters. -/
theorem kind_isWord (resolution : Resolution) :
    ' ' ∉ resolution.kind.toList ∧ '\x1B' ∉ resolution.kind.toList ∧
      ¬commentEnd <:+: resolution.kind.toList := by
  cases resolution <;> (simp only [Resolution.kind]; decide)

/-- A command line that is understood and runs does what its command does. -/
theorem runCommand_of_run {words : List String} {request : Request} {home : SettingsHome}
    {clock : String} {console : Console} {outcome : Outcome}
    (asked : readRequest words = .ok request)
    (ran : run words home clock console = .ok outcome) :
    runCommand home clock request.format console request.command =
      (outcome.screen, outcome.exitCode) := by
  rw [run, asked] at ran
  cases level : logLevel home with
  | error fault =>
      rw [level] at ran
      cases ran
  | ok level =>
      simp only [level, bind, Except.bind, pure, Except.pure, Except.ok.injEq] at ran
      rw [← ran]

/-- A report that is shown with the exit code of success is a success, and its output is printed. -/
theorem showReport_of_success {clock : String} {format : DataFormat}
    {page : Option (Entries Json → String)} {report : Report} {console : Console}
    {screen : Screen} (succeeded : showReport clock format page report console = (screen, 0)) :
    report.success = true ∧ screen.data = report.outputText format page := by
  rw [showReport] at succeeded
  rcases shown : report.shown clock format page console with ⟨reached, ending⟩
  rw [shown] at succeeded
  cases ending with
  | exit code =>
      cases succeeded
      obtain ⟨-, code, lines, -, rfl⟩ := (report.shown_eq_exit_iff ..).mp shown
      refine ⟨?_, by simp [Screen.extended]⟩
      by_contra failed
      simp [Report.exitCode, failed] at code
  | markup fault => simp [brokenOff] at succeeded
  | noResult => simp [brokenOff] at succeeded

/-- The page of a report on a reference is made of what its output says. -/
theorem pageOfOutput_of_members {output : Entries Json} {kind html : String} {page : Option String}
    (named : Entries.get? output "kind" = some (.string kind))
    (paged : Entries.get? output "page" = some (.ofString? page))
    (written : Entries.get? output "html" = some (.string html)) :
    pageOfOutput output = echoed (htmlPage kind page html) := by
  rw [pageOfOutput, textMember?, textMember?, textMember?, named, paged, written]
  cases page <;> rfl

/-- A report on a reference that is a success is the report under the settings that load. -/
theorem ofReference_of_success {request : ReferenceRequest} {home : SettingsHome} {report : Report}
    (reported : Report.reference request home = .ok report) (success : report.success = true) :
    ∃ settings, Settings.load home = .ok settings ∧
      report = Report.ofReference request settings := by
  rw [Report.reference] at reported
  cases loaded : Settings.load home with
  | ok settings =>
      rw [loaded] at reported
      cases reported
      exact ⟨settings, rfl, rfl⟩
  | error fault =>
      rw [loaded] at reported
      simp only at reported
      split at reported
      · cases reported
        cases success
      · cases reported

/-- The report on a reference names a kind of resolution and perhaps a page, and has HTML. -/
theorem members_ofReference (request : ReferenceRequest) (settings : Settings) :
    ∃ (resolution : Resolution) (page : Option String) (html : String),
      let output := (Report.ofReference request settings).output
      Entries.get? output "kind" = some (.string resolution.kind) ∧
        Entries.get? output "page" = some (.ofString? page) ∧
        Entries.get? output "html" = some (.string html) :=
  ⟨_, _, _, rfl, rfl, rfl⟩

/-- The words ask for a page of HTML, and the command succeeds. Then the report on the reference has
a kind, perhaps a page, and HTML; and they are read back from what is printed, as the comment up to
the first mark that ends a comment and the text behind it, exactly when the name of the page is
plain and the HTML has no control sequences. -/
theorem htmlPage_read_iff {words : List String} {request : ReferenceRequest} {format : DataFormat}
    {home : SettingsHome} {clock : String} {console : Console} {outcome : Outcome}
    (asked : readRequest words = .ok ⟨.reference request true, format⟩)
    (ran : run words home clock console = .ok outcome) (succeeded : outcome.exitCode = 0) :
    ∃ (report : Report) (kind : String) (page : Option String) (html : String),
      Report.reference request home = .ok report ∧
      Entries.get? report.output "kind" = some (.string kind) ∧
      Entries.get? report.output "page" = some (.ofString? page) ∧
      Entries.get? report.output "html" = some (.string html) ∧
      (read? outcome.screen.data.toList =
          some (kind.toList, page.map String.toList, html.toList) ↔
        (∀ named ∈ page, IsPlain named) ∧ IsFree html.toList) := by
  have ran := runCommand_of_run asked ran
  simp only [runCommand, if_true, succeeded] at ran
  cases reported : Report.reference request home with
  | error fault => simp [reported, brokenOff] at ran
  | ok report =>
      rw [reported] at ran
      obtain ⟨success, printed⟩ := showReport_of_success ran
      obtain ⟨settings, -, rfl⟩ := ofReference_of_success reported success
      obtain ⟨resolution, page, html, named, paged, written⟩ :=
        members_ofReference request settings
      refine ⟨_, resolution.kind, page, html, rfl, named, paged, written, ?_⟩
      obtain ⟨noSpace, noEscape, noEnd⟩ := kind_isWord resolution
      have text : outcome.screen.data = echoed (htmlPage resolution.kind page html) :=
        printed.trans (pageOfOutput_of_members named paged written)
      rw [text, echoed, String.toList_ofList]
      exact read?_removed_htmlPage_iff noSpace noEscape noEnd page html

/-- The reference to the page of an omega meson. -/
def mesonRequest : ReferenceRequest where
  text := "Ω meson"
  infersPage := true

/-- The home of a user without a settings file. -/
def bareHome : SettingsHome := { path := "/home/user" }

/-- The kind and the page of an omega meson are read back from the comment. -/
theorem htmlPage_read_of_meson :
    let words := ["ref", "render", "Ω meson", "--infer", "--html"]
    readRequest words = .ok ⟨.reference mesonRequest true, .yaml⟩ ∧
      ∃ outcome, run words bareHome "12:34:56" = .ok outcome ∧ outcome.exitCode = 0 ∧
        ∃ (report : Report) (kind : String) (page : Option String) (html : String),
          Report.reference mesonRequest bareHome = .ok report ∧
          Entries.get? report.output "kind" = some (.string kind) ∧
          Entries.get? report.output "page" = some (.ofString? page) ∧
          Entries.get? report.output "html" = some (.string html) ∧
          (read? outcome.screen.data.toList =
              some (kind.toList, page.map String.toList, html.toList) ↔
            (∀ named ∈ page, IsPlain named) ∧ IsFree html.toList) := by
  intro words
  have asked : readRequest words = .ok ⟨.reference mesonRequest true, .yaml⟩ := by rfl
  have succeeded : (run words bareHome "12:34:56").toOption.map (·.exitCode) = some 0 := by
    decide +kernel
  rcases ran : run words bareHome "12:34:56" with fault | outcome
  · rw [ran] at succeeded
    cases succeeded
  · rw [ran] at succeeded
    have code : outcome.exitCode = 0 := Option.some.inj succeeded
    exact ⟨asked, outcome, rfl, code, htmlPage_read_iff asked ran code⟩

/-- A page that ends a comment ends the comment that names it: what follows in the name is printed
as markup, and nothing is read back. -/
theorem htmlPage_not_read_of_arrow :
    ∃ outcome,
      run ["ref", "render", "a--><b>", "--infer", "--html"] bareHome "12:34:56" = .ok outcome ∧
      outcome.exitCode = 0 ∧
      outcome.screen.data =
        "<!-- lookup page=a--><b> -->\n" ++
          "<btex-link data-page=\"a--&gt;&lt;b&gt;\">a--&gt;&lt;b&gt;</btex-link>" ∧
      read? outcome.screen.data.toList = none := by
  have printed : (run ["ref", "render", "a--><b>", "--infer", "--html"] bareHome
      "12:34:56").toOption.map (fun outcome => (outcome.exitCode, outcome.screen.data)) =
        some (0, "<!-- lookup page=a--><b> -->\n" ++
          "<btex-link data-page=\"a--&gt;&lt;b&gt;\">a--&gt;&lt;b&gt;</btex-link>") := by
    decide +kernel
  rcases ran : run ["ref", "render", "a--><b>", "--infer", "--html"] bareHome "12:34:56" with
    fault | outcome
  · rw [ran] at printed
    cases printed
  · rw [ran] at printed
    obtain ⟨code, data⟩ := Prod.mk.inj (Option.some.inj printed)
    refine ⟨outcome, rfl, code, data, ?_⟩
    rw [data]
    decide +kernel

end CrossRef.CommandLine
