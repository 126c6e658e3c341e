import CrossRef.Proofs.Json.Plain
import CrossRef.Proofs.Json.RoundTrip
import CrossRef.Proofs.Settings.Saving
import CrossRef.Proofs.Settings.Validity

/-!
Settings that were saved and are loaded again: they come back as they were when they are valid, and
otherwise the first broken rule is reported.
-/

namespace CrossRef.Settings

/-! The text of settings. -/

/-- A text without carriage returns has line feeds only at the ends of its lines. -/
theorem readLines_of_notMem {text : List Char} (none : '\r' ∉ text) : readLines text = text := by
  induction text with
  | nil => rfl
  | cons c text ih =>
      rw [List.mem_cons, not_or] at none
      rw [readLines, ih none.2]
      · exact fun _ same _ => none.1 same.symm
      · exact fun same => none.1 same.symm

/-- The text of settings is read line by line as it is. -/
theorem readLines_fileText (settings : Settings) :
    readLines settings.fileText.toList = settings.fileText.toList := by
  refine readLines_of_notMem fun member => ?_
  rw [fileText, Json.write, String.toList_ofList] at member
  have plain := Json.isPlain_writeAt 4 settings.toJson 0 '\r' member
  exact absurd plain (by decide)

theorem areReadable_map (texts : List String) : Json.AreReadable (texts.map .string) := by
  induction texts with
  | nil => trivial
  | cons text texts ih => exact ⟨trivial, ih⟩

theorem isReadable_toJson (settings : Settings) : settings.toJson.IsReadable := by
  simp [toJson, Json.IsReadable, Json.AreReadableMembers, Json.ofStrings, areReadable_map,
    Entries.names]

/-! Loading what was saved. -/

/-- From their own file settings are loaded unless they break a rule. -/
theorem load_replaced (settings : Settings) (home : SettingsHome) :
    load (replaced home settings.fileBytes) =
      match settings.violation? with
      | some violation => .error (.broken violation)
      | none => .ok settings := by
  have text : Json.read settings.fileText.toList = .ok settings.toJson :=
    Json.read_write 4 (isReadable_toJson settings)
  have bytes (path : String) :
      ofBytes path settings.fileBytes = (ofMembers settings.sections).mapError .broken := by
    rw [ofBytes, decodeUtf8_fileBytes]
    simp only [readLines_fileText, ofText, text, toJson_eq]
  rw [load, replaced]
  simp only [bytes, ofMembers_sections]
  cases settings.violation? <;> rfl

/-! Loaded settings. -/

/-- Settings that a text spells are valid. -/
theorem isValid_of_ofText {path : String} {text : List Char} {settings : Settings}
    (done : ofText path text = .ok settings) : settings.IsValid := by
  rw [ofText] at done
  split at done
  · cases done
  · next members _ =>
      cases checked : ofMembers members with
      | error violation =>
          rw [checked] at done
          cases done
      | ok found =>
          rw [checked] at done
          cases done
          exact isValid_of_ofMembers checked
  · cases done

/-- Settings that were loaded are valid, with a file or without. -/
theorem isValid_of_load {home : SettingsHome} {settings : Settings}
    (loads : load home = .ok settings) : settings.IsValid := by
  rw [load] at loads
  split at loads
  · rw [← Except.ok.inj loads]
    exact isValid_default
  · rw [← Except.ok.inj loads]
    exact isValid_default
  · next bytes _ =>
      rw [ofBytes] at loads
      split at loads
      · cases loads
      · exact isValid_of_ofText loads
  · cases loads

/-- Loaded settings after an assignment that was not checked. -/
def assign (settings : Settings) (prefixes : List String) (smallest : Binary64) (level : String) :
    Settings :=
  { settings with smallest, categoryPrefixes := prefixes, level }

/-- What was assigned is valid when it keeps the rules itself. The largest size was loaded. -/
theorem isValid_assign_iff {settings : Settings} (valid : settings.IsValid)
    (prefixes : List String) (smallest : Binary64) (level : String) :
    (settings.assign prefixes smallest level).IsValid ↔
      Binary64.lt 0 smallest = true ∧ Binary64.lt settings.largest smallest = false ∧
        level ∈ levels :=
  ⟨fun kept => ⟨kept.smallest_positive, kept.ordered, kept.level_known⟩,
    fun ⟨positive, ordered, known⟩ => ⟨⟨positive, valid.largest_positive, ordered⟩, known⟩⟩

/-! Main result. -/

/-- Settings that were loaded, changed without a check and saved can be loaded again exactly when
the change keeps the rules. Then every field comes back as it was saved, and otherwise the first
broken rule is reported. -/
theorem load_save {original home saved : SettingsHome} {loaded : Settings}
    (loads : load original = .ok loaded) {prefixes : List String} {smallest : Binary64}
    {level : String} (saves : (loaded.assign prefixes smallest level).save home = (saved, none)) :
    ((∃ reloaded, load saved = .ok reloaded) ↔
        Binary64.lt 0 smallest = true ∧ Binary64.lt loaded.largest smallest = false ∧
          level ∈ levels) ∧
      (∀ reloaded, load saved = .ok reloaded →
        reloaded = loaded.assign prefixes smallest level) ∧
      ∀ fault, load saved = .error fault → fault.isReported = true ∧
        ∃ violation, (loaded.assign prefixes smallest level).violation? = some violation ∧
          fault.message = "Configuration validation error: " ++ violation.message := by
  rw [eq_replaced_of_save saves, load_replaced,
    ← isValid_assign_iff (isValid_of_load loads) prefixes, ← violation?_eq_none_iff]
  cases (loaded.assign prefixes smallest level).violation? with
  | none => simp
  | some violation =>
      refine ⟨by simp, fun reloaded found => ?_, fun fault failed => ?_⟩
      · cases found
      · cases failed
        exact ⟨rfl, violation, rfl, rfl⟩

/-- A home without files. -/
def emptyHome : SettingsHome := { path := "/home/user" }

/-- Prefixes with marks, ends of lines, controls and a character beyond the basic plane. -/
def unusualPrefixes : List String := ["\"\\:", "\r\n\x00", "\u2028😀"]

/-- Prefixes of any characters come back, and a tenth is the same tenth. -/
theorem load_save_unusual :
    ∃ saved, (({} : Settings).assign unusualPrefixes 0.1 "WARN").save emptyHome = (saved, none) ∧
      load saved = .ok (({} : Settings).assign unusualPrefixes 0.1 "WARN") := by
  have free : ¬IsBlocked emptyHome := by simp [IsBlocked, emptyHome]
  have saves := save_of_not_isBlocked (({} : Settings).assign unusualPrefixes 0.1 "WARN") free
  obtain ⟨succeeds, same, -⟩ := load_save (rfl : load emptyHome = .ok {}) saves
  obtain ⟨reloaded, found⟩ := succeeds.mpr
    ⟨by decide +kernel, by decide +kernel, by simp [levels]⟩
  exact ⟨_, saves, by rw [found, same reloaded found]⟩

end CrossRef.Settings
