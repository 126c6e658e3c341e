import CrossRef.Proofs.Number.Plain
import CrossRef.Proofs.Output.Elements
import CrossRef.Proofs.Report.InferredPage
import CrossRef.Proofs.Settings.Reload

/-!
The font sizes in the HTML of a report: whatever the request asks for, they are written in plain
notation between the limits of the settings, as long as the lower limit is a finite number that
needs no exponent.
-/

namespace CrossRef

open Binary64 (lt)

/-! Declarations. -/

/-- A declaration in the style of an element; declarations are set apart by semicolons. -/
def Node.Declares (nodes : List Node) (declaration : List Char) : Prop :=
  ∃ head ∈ headsOfList nodes, ∃ css : String,
    ("style", css) ∈ head.attributes ∧ declaration ∈ css.toList.splitOn ';'

/-- A font size in pixels, in plain notation for a finite value between two limits. -/
def KeepsLimits (smallest largest : Binary64) (declaration : List Char) : Prop :=
  ∃ (numeral : List Char) (value : Binary64),
    declaration = "font-size:".toList ++ numeral ++ "px".toList ∧
      Numeral.IsPlain numeral value ∧ value.isFinite = true ∧
      lt value smallest = false ∧ lt largest value = false

namespace Style

/-- No declaration holds the mark that sets declarations apart. -/
theorem semicolon_notMem_declarations (style : Style) (presentation : Presentation) :
    ∀ declaration ∈ style.declarations presentation, ';' ∉ declaration.toList := by
  intro declaration member
  rw [declarations, List.mem_append, List.mem_append] at member
  rcases member with (italic | bold) | size
  · split at italic
    · rw [List.mem_singleton.mp italic]
      decide
    · cases italic
  · split at bold
    · rw [List.mem_singleton.mp bold]
      decide
    · cases bold
  · split at size
    · next value shown =>
        rw [List.mem_singleton.mp size]
        simp [Binary64.semicolon_notMem_compactText value]
    · cases size

/-- The style attribute of a span falls into its declarations. -/
theorem mem_splitOn_css_iff {style : Style} {presentation : Presentation}
    (nonempty : style.declarations presentation ≠ []) (declaration : List Char) :
    declaration ∈ (style.css presentation).toList.splitOn ';' ↔
      ∃ text ∈ style.declarations presentation, declaration = text.toList := by
  have apart : ∀ text ∈ (style.declarations presentation).map String.toList, ';' ∉ text := by
    simpa using style.semicolon_notMem_declarations presentation
  have joined : (style.css presentation).toList =
      [';'].intercalate ((style.declarations presentation).map String.toList) := by
    rw [css, String.toList_intercalate]
    rfl
  rw [joined, List.splitOn_intercalate _ apart (by simpa using nonempty)]
  simp [eq_comm]

/-- The style attribute of a span is the text of its declarations, and it is left out when there
are none. -/
theorem css_of_mem_attributes {style : Style} {presentation : Presentation} {css : String}
    (member : ("style", css) ∈ style.attributes presentation) :
    css = style.css presentation ∧ style.declarations presentation ≠ [] := by
  rw [attributes, List.mem_append] at member
  rcases member with first | later
  · split at first
    · cases first
    · next visible =>
        refine ⟨congrArg Prod.snd (List.mem_singleton.mp first), fun none => visible ?_⟩
        rw [Style.css, none]
        rfl
  · split at later <;> simp at later

/-- A font size is declared as the size that is shown. -/
theorem exists_shownSize_of_mem {style : Style} {presentation : Presentation} {text : String}
    (member : text ∈ style.declarations presentation)
    (sizing : "font-size:".toList <+: text.toList) :
    ∃ size, style.shownSize? presentation = some size ∧
      text = "font-size:" ++ size.compactText ++ "px" := by
  rw [declarations, List.mem_append, List.mem_append] at member
  rcases member with (italic | bold) | size
  · split at italic
    · rw [List.mem_singleton.mp italic] at sizing
      exact absurd sizing (by decide)
    · cases italic
  · split at bold
    · rw [List.mem_singleton.mp bold] at sizing
      exact absurd sizing (by decide)
    · cases bold
  · split at size
    · next value shown => exact ⟨value, shown, List.mem_singleton.mp size⟩
    · cases size

/-- The size that is shown is a finite number between the limits. -/
theorem shownSize_bounds {style : Style} {presentation : Presentation} {size : Binary64}
    (isFinite : presentation.smallest.isFinite = true)
    (ordered : lt presentation.largest presentation.smallest = false)
    (shown : style.shownSize? presentation = some size) :
    size.isFinite = true ∧ lt size presentation.smallest = false ∧
      lt presentation.largest size = false := by
  rw [shownSize?] at shown
  split at shown
  · split at shown
    · next asked counts =>
        cases shown
        exact Binary64.clamp_bounds (Bool.and_eq_true_iff.mp counts).1 isFinite ordered
    · cases shown
  · cases shown

end Style

/-- All that the output of a reference declares is declared by the style of some span. -/
theorem exists_style_of_declares {labels : LabelId → Label} {presentation : Presentation}
    {reference : Reference} {declaration : List Char}
    (declares : Node.Declares (reference.output labels presentation) declaration) :
    ∃ style : Style, ∃ text ∈ style.declarations presentation, declaration = text.toList := by
  obtain ⟨head, member, css, given, declared⟩ := declares
  have named : "style" ∈ Entries.names head.attributes :=
    List.mem_map.mpr ⟨_, given, rfl⟩
  have shows := Reference.shows_of_mem_outputFor member
  generalize reference.resolve presentation.categoryPrefixes = resolution at shows
  cases shows with
  | span _ style =>
      obtain ⟨rfl, nonempty⟩ := Style.css_of_mem_attributes given
      exact ⟨style, (Style.mem_splitOn_css_iff nonempty declaration).mp declared⟩
  | bookmark label => exact absurd named (by simp [Entries.names])
  | address url => exact absurd named (by simp [Entries.names])
  | place query =>
      exact absurd ((Reference.names_queryAttributes query).mem named) (by decide)
  | link query linked =>
      exact absurd ((Reference.names_linkAttributes query).mem named) (by decide)

namespace Settings

/-- The lower limit is a finite number that is written without an exponent. -/
def HasPlainLimit (settings : Settings) : Prop :=
  settings.smallest.isFinite = true ∧ lt settings.smallest 0.0001 = false

/-- With such a limit every font size of a reference is plain and between the limits. -/
theorem keepsLimits_of_declares {settings : Settings} (valid : settings.IsValid)
    (plain : settings.HasPlainLimit) {labels : LabelId → Label} {reference : Reference}
    {declaration : List Char}
    (declares : Node.Declares (reference.output labels settings.presentation) declaration)
    (sizing : "font-size:".toList <+: declaration) :
    KeepsLimits settings.smallest settings.largest declaration := by
  obtain ⟨style, text, member, rfl⟩ := exists_style_of_declares declares
  obtain ⟨size, shown, rfl⟩ := Style.exists_shownSize_of_mem member sizing
  obtain ⟨isFinite, notBelow, notAbove⟩ :=
    Style.shownSize_bounds plain.1 valid.ordered shown
  change lt size settings.smallest = false at notBelow
  -- Whatever is below the size is below the limit, or the limit itself is below it.
  have known : size ≠ .nan := fun undefined => by
    rw [undefined] at isFinite
    cases isFinite
  have positive : lt 0 size = true :=
    (Binary64.lt_or_lt valid.smallest_positive known).resolve_right (by simp [notBelow])
  have limited : settings.smallest ≠ .nan := fun undefined => by
    have finite := plain.1
    rw [undefined] at finite
    cases finite
  have large : lt size 0.0001 = false := Bool.eq_false_iff.mpr fun small =>
    (Binary64.lt_or_lt small limited).elim (by simp [notBelow]) (by simp [plain.2])
  refine ⟨size.compactText.toList, size, by simp, ?_, isFinite, notBelow, notAbove⟩
  exact Binary64.isPlain_compactText isFinite positive large

end Settings

namespace ReferenceRequest

/-- A request for the smallest size there is. -/
def tinyRequest : ReferenceRequest where
  isUnlinked := true
  size := some 5e-324

/-- The reference of a request without a label, after it was normalised. -/
theorem reference_document {request : ReferenceRequest} (noLabel : request.bookmark = none)
    (categoryPrefixes : List String) :
    (request.document categoryPrefixes).reference 0 =
      request.bound.normalise categoryPrefixes := by
  rw [document, Document.run_append, run_bindingSteps, normalisingSteps, noLabel]
  rfl

/-- The size reaches the reference through its text. -/
theorem size_bound_tinyRequest : tinyRequest.bound.binding.style.size = some 5e-324 := by
  decide +kernel

/-- The request points at no label and no address, so that its output is the place of a page that
is looked up, in a span with the style of the reference. -/
theorem output_tinyRequest (settings : Settings) :
    ∃ content,
      (tinyRequest.document settings.categoryPrefixes).output 0 settings.presentation =
        [.element "span" (tinyRequest.bound.binding.style.attributes settings.presentation)
          content] := by
  let reference := tinyRequest.bound.normalise settings.categoryPrefixes
  have noTarget : reference.target = none := rfl
  have noUrl : reference.binding.url = none := rfl
  have unlinked : reference.binding.isUnlinked = true := rfl
  have resolved : reference.resolve settings.categoryPrefixes =
      Reference.resolveNow.lookupOf settings.categoryPrefixes reference := by
    rw [(Reference.isCurrent_normalise _ _).resolve_eq, Reference.resolveNow, noTarget, noUrl]
  rw [Document.output, reference_document rfl, Reference.output]
  change ∃ _, Reference.outputFor _ _ reference (reference.resolve settings.categoryPrefixes) = _
  rw [resolved, Reference.resolveNow.lookupOf, unlinked, Reference.outputFor]
  exact ⟨_, rfl⟩

end ReferenceRequest

namespace Report

open ReferenceRequest (tinyRequest)

/-- A size below the limit is shown as the limit. -/
theorem shownSize_tinyRequest {settings : Settings} (valid : settings.IsValid) :
    tinyRequest.bound.binding.style.shownSize? settings.presentation = some settings.smallest := by
  have counts : ((5e-324 : Binary64).isFinite && !(5e-324 : Binary64).isZero) = true := by
    decide +kernel
  rw [Style.shownSize?, ReferenceRequest.size_bound_tinyRequest]
  simp only [counts, if_true]
  change some (Binary64.clamp 5e-324 settings.smallest settings.largest) = _
  rcases Binary64.lt_or_eq_of_positive valid.smallest_positive with below | same
  · rw [Binary64.clamp_of_lt below valid.ordered]
  · have ordered := valid.ordered
    rw [same] at ordered ⊢
    simp [Binary64.clamp, Binary64.max, Binary64.min, ordered]

/-- The request for the smallest size declares the limit. -/
theorem declares_tinyRequest {settings : Settings} (valid : settings.IsValid) :
    Node.Declares ((tinyRequest.document settings.categoryPrefixes).output 0 settings.presentation)
      ("font-size:" ++ settings.smallest.compactText ++ "px").toList := by
  obtain ⟨content, written⟩ := ReferenceRequest.output_tinyRequest settings
  let style := tinyRequest.bound.binding.style
  have declared : ("font-size:" ++ settings.smallest.compactText ++ "px") ∈
      style.declarations settings.presentation := by
    rw [Style.declarations, shownSize_tinyRequest valid]
    simp
  have nonempty : style.declarations settings.presentation ≠ [] := List.ne_nil_of_mem declared
  refine ⟨style.head settings.presentation, ?_, style.css settings.presentation, ?_,
    (Style.mem_splitOn_css_iff nonempty _).mpr ⟨_, declared, rfl⟩⟩
  · rw [written, Node.headsOfList_singleton, Node.heads]
    exact List.mem_cons_self
  · have visible : (style.css settings.presentation).isEmpty = false := by
      rw [String.isEmpty_eq_false_iff]
      intro empty
      have parts := (Style.mem_splitOn_css_iff nonempty _).mpr ⟨_, declared, rfl⟩
      rw [empty] at parts
      simp at parts
    change ("style", _) ∈ style.attributes settings.presentation
    rw [Style.attributes, visible]
    simp

/-- For settings that load, the lower limit on font sizes is a finite number of at least one
ten-thousandth exactly when the HTML of every report on a reference keeps the limits: each font
size that it declares is in plain notation for a finite value between the limits. -/
theorem fontSizes_keepLimits_iff {home : SettingsHome} {settings : Settings}
    (loads : Settings.load home = .ok settings) :
    (∀ request : ReferenceRequest, ∃ report, reference request home = .ok report ∧
      let nodes := (request.document settings.categoryPrefixes).output 0 settings.presentation
      Entries.get? report.output "html" = some (.string (Node.htmlOfList nodes)) ∧
        ∀ declaration, Node.Declares nodes declaration → "font-size:".toList <+: declaration →
          KeepsLimits settings.smallest settings.largest declaration) ↔
      settings.HasPlainLimit := by
  have valid := Settings.isValid_of_load loads
  constructor
  · intro keeps
    obtain ⟨report, -, -, limited⟩ := keeps tinyRequest
    obtain ⟨numeral, value, written, plain, -⟩ :=
      limited _ (declares_tinyRequest valid)
        ⟨(settings.smallest.compactText ++ "px").toList, by simp⟩
    have same : numeral = settings.smallest.compactText.toList := by
      simpa using written.symm
    rw [same] at plain
    exact Binary64.of_isPlain_compactText valid.smallest_positive plain
  · intro plain request
    refine ⟨ofReference request settings, by rw [reference, loads], rfl, ?_⟩
    intro declaration declares sizing
    exact Settings.keepsLimits_of_declares valid plain declares sizing

/-- Without a settings file the limits are plain, and every report keeps them. -/
theorem fontSizes_keepLimits_default :
    let home : SettingsHome := { path := "/home/user" }
    let settings : Settings := {}
    Settings.load home = .ok settings ∧ settings.HasPlainLimit ∧
      ∀ request : ReferenceRequest, ∃ report, reference request home = .ok report ∧
        let nodes := (request.document settings.categoryPrefixes).output 0 settings.presentation
        Entries.get? report.output "html" = some (.string (Node.htmlOfList nodes)) ∧
          ∀ declaration, Node.Declares nodes declaration → "font-size:".toList <+: declaration →
            KeepsLimits settings.smallest settings.largest declaration := by
  intro home settings
  have plain : settings.HasPlainLimit := ⟨by decide +kernel, by decide +kernel⟩
  exact ⟨rfl, plain, (fontSizes_keepLimits_iff rfl).mpr plain⟩

/-- An exponent or the word for infinity is not plain notation, whatever the limits are. -/
theorem not_keepsLimits_of_letter {text : String} {letter : Char} (member : letter ∈ text.toList)
    (special : ¬(letter.isDigit = true ∨ letter = '.')) (smallest largest : Binary64) :
    ¬KeepsLimits smallest largest ("font-size:" ++ text ++ "px").toList := by
  rintro ⟨numeral, value, written, plain, -⟩
  have same : text.toList = numeral := by
    simpa using written
  exact special (plain.isDigit_or_point (same ▸ member))

/-- The HTML of a report under settings whose limits and prefixes are known. -/
theorem html_of_limits {home : SettingsHome} {prefixes : List String}
    {smallest largest : Binary64}
    (limits : (Settings.load home).toOption.map
      (fun settings => (settings.categoryPrefixes, settings.smallest, settings.largest)) =
        some (prefixes, smallest, largest)) (request : ReferenceRequest) :
    ∃ report, reference request home = .ok report ∧
      Entries.get? report.output "html" = some (.string (Node.htmlOfList
        ((request.document prefixes).output 0 ⟨smallest, largest, prefixes⟩))) := by
  rcases loaded : Settings.load home with fault | settings
  · rw [loaded] at limits
    cases limits
  · rw [loaded] at limits
    obtain ⟨rfl, sizes⟩ := Prod.mk.inj (Option.some.inj limits)
    obtain ⟨rfl, rfl⟩ := Prod.mk.inj sizes
    exact ⟨ofReference request settings, by rw [reference, loaded], rfl⟩

/-- A home with the limits on font sizes in its settings file. -/
def limitedHome (limits : String) : SettingsHome where
  path := "/home/user"
  settings := .file <|
    ("\x7b\"render\":\x7b" ++ limits ++ "\x7d\x7d").toList.flatMap String.utf8EncodeChar

/-- A request for a size without a link. -/
def sizedRequest (size : Binary64) : ReferenceRequest where
  isUnlinked := true
  size := some size

/-- Limits are positive, so that the settings load, and are still not plain: an infinite limit is
written by its word, and a small one with an exponent. -/
theorem fontSizes_without_plain_limit :
    (∃ report,
      reference (sizedRequest 1)
        (limitedHome "\"min_font_size\":Infinity,\"max_font_size\":Infinity") = .ok report ∧
      Entries.get? report.output "html" = some (.string
        "<span style=\"font-size:infpx\"><btex-ref></btex-ref></span>")) ∧
    (∃ report,
      reference (sizedRequest 1e-5) (limitedHome "\"min_font_size\":1e-5") = .ok report ∧
      Entries.get? report.output "html" = some (.string
        "<span style=\"font-size:1e-05px\"><btex-ref></btex-ref></span>")) ∧
    ∀ smallest largest, ¬KeepsLimits smallest largest "font-size:infpx".toList ∧
      ¬KeepsLimits smallest largest "font-size:1e-05px".toList := by
  refine ⟨?_, ?_, fun smallest largest => ⟨?_, ?_⟩⟩
  · have html : Node.htmlOfList (((sizedRequest 1).document defaultCategoryPrefixes).output 0
        ⟨.infinite false, .infinite false, defaultCategoryPrefixes⟩) =
          "<span style=\"font-size:infpx\"><btex-ref></btex-ref></span>" := by
      decide +kernel
    rw [← html]
    exact html_of_limits (by decide +kernel) _
  · have html : Node.htmlOfList (((sizedRequest 1e-5).document defaultCategoryPrefixes).output 0
        ⟨1e-5, 72, defaultCategoryPrefixes⟩) =
          "<span style=\"font-size:1e-05px\"><btex-ref></btex-ref></span>" := by
      decide +kernel
    rw [← html]
    exact html_of_limits (by decide +kernel) _
  · exact @not_keepsLimits_of_letter "inf" 'n' (by decide) (by decide) smallest largest
  · exact @not_keepsLimits_of_letter "1e-05" 'e' (by decide) (by decide) smallest largest

end Report

end CrossRef
