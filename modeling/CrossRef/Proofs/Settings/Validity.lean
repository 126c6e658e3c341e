import CrossRef.Settings.Validation
import Mathlib.Tactic.SplitIfs

/-!
Valid settings: every rule that settings can break, the first one that is reported, and the
settings that were read, which break none.
-/

namespace CrossRef.Settings

/-! Rules. -/

/-- The rules for sizes: both are positive, and they are in order. -/
structure AreSizes (smallest largest : Binary64) : Prop where
  smallest_positive : Binary64.lt 0 smallest = true
  largest_positive : Binary64.lt 0 largest = true
  ordered : Binary64.lt largest smallest = false

/-- The rules for settings: the sizes keep their rules, and the level is known. -/
structure IsValid (settings : Settings) : Prop extends
    AreSizes settings.smallest settings.largest where
  level_known : settings.level ∈ levels

/-- The first rule that settings break. Each size is looked at before both together, and the
level comes last. -/
def violation? (settings : Settings) : Option Violation :=
  if Binary64.lt 0 settings.smallest = false then some ⟨["render", "min_font_size"], .positive⟩
  else if Binary64.lt 0 settings.largest = false then
    some ⟨["render", "max_font_size"], .positive⟩
  else if Binary64.lt settings.largest settings.smallest = true then
    some ⟨["render"], .range settings.smallest settings.largest⟩
  else if settings.level ∉ levels then some ⟨["log", "level"], .level⟩
  else none

/-- Valid settings are those that break no rule. -/
theorem violation?_eq_none_iff {settings : Settings} :
    settings.violation? = none ↔ settings.IsValid := by
  unfold violation?
  constructor
  · intro kept
    split_ifs at kept with small large crossed unknown
    exact ⟨⟨by simpa using small, by simpa using large, by simpa using crossed⟩, unknown⟩
  · intro valid
    simp [valid.smallest_positive, valid.largest_positive, valid.ordered, valid.level_known]

/-! Settings as data. -/

section Members

variable (settings : Settings)

/-- The sizes by name. -/
def sizeMembers : Entries Json :=
  [("min_font_size", .number settings.smallest), ("max_font_size", .number settings.largest)]

/-- The prefixes by name. -/
def prefixMembers : Entries Json :=
  [("category_prefixes", .ofStrings settings.categoryPrefixes)]

/-- The level by name. -/
def logMembers : Entries Json :=
  [("level", .string settings.level)]

/-- The sections by name. -/
def sections : Entries Json :=
  [("render", .object settings.sizeMembers), ("ref", .object settings.prefixMembers),
    ("log", .object settings.logMembers)]

theorem toJson_eq : settings.toJson = .object settings.sections :=
  rfl

end Members

/-! Checks of settings as data. -/

/-- The value of a name is checked. -/
theorem checkMember_of_get? {α : Type} {members : Entries Json} {name : String} {value : Json}
    (found : members.get? name = some value) (default : α) (check : Json → Check α) :
    checkMember members name default check = within name (check value) := by
  rw [checkMember, found]

theorem checkTexts_map (texts : List String) (index : Nat) :
    checkTexts index (texts.map .string) = .ok texts := by
  induction texts generalizing index with
  | nil => rfl
  | cons text texts ih =>
      rw [List.map_cons, checkTexts, ih]
      rfl

/-- A number is a size when it is positive. -/
theorem checkSize_number (value : Binary64) :
    checkSize (.number value) =
      if Binary64.lt 0 value then .ok value else violates .positive := by
  simp only [checkSize, checkNumber, bind, Except.bind, pure, Except.pure]

variable (settings : Settings)

/-- The prefixes of settings pass. -/
theorem checkPrefixes_prefixMembers :
    checkPrefixes (.object settings.prefixMembers) = .ok settings.categoryPrefixes := by
  have prefixes : settings.prefixMembers.get? "category_prefixes" =
      some (.ofStrings settings.categoryPrefixes) := rfl
  have texts : checkTextList (.ofStrings settings.categoryPrefixes) =
      .ok settings.categoryPrefixes := checkTexts_map settings.categoryPrefixes 0
  rw [checkPrefixes]
  simp only [checkSection, bind, Except.bind, checkMember_of_get? prefixes, texts]
  rfl

/-- The level of settings is checked. -/
theorem checkLog_logMembers :
    checkLog (.object settings.logMembers) =
      if settings.level ∈ levels then .ok settings.level else .error ⟨["level"], .level⟩ := by
  have level : settings.logMembers.get? "level" = some (.string settings.level) := rfl
  rw [checkLog]
  simp only [checkSection, bind, Except.bind, checkMember_of_get? level, checkLevel,
    List.contains_iff_mem]
  split_ifs <;> rfl

/-- The sizes of settings are checked, each on its own and then both together. -/
theorem checkSizes_sizeMembers :
    checkSizes (.object settings.sizeMembers) =
      if Binary64.lt 0 settings.smallest = false then .error ⟨["min_font_size"], .positive⟩
      else if Binary64.lt 0 settings.largest = false then .error ⟨["max_font_size"], .positive⟩
      else if Binary64.lt settings.largest settings.smallest = true then
        .error ⟨[], .range settings.smallest settings.largest⟩
      else .ok (settings.smallest, settings.largest) := by
  have smallest : settings.sizeMembers.get? "min_font_size" =
      some (.number settings.smallest) := rfl
  have largest : settings.sizeMembers.get? "max_font_size" = some (.number settings.largest) := rfl
  have names : checkNames settings.sizeMembers ["min_font_size", "max_font_size"] = .ok () := rfl
  rw [checkSizes]
  simp only [checkSection, bind, Except.bind, checkMember_of_get? smallest,
    checkMember_of_get? largest, checkSize_number, names]
  cases Binary64.lt 0 settings.smallest with
  | false => rfl
  | true =>
      cases Binary64.lt 0 settings.largest with
      | false => rfl
      | true => rfl

/-- Settings as data are read as the settings unless they break a rule. -/
theorem ofMembers_sections :
    ofMembers settings.sections =
      match settings.violation? with
      | some violation => .error violation
      | none => .ok settings := by
  have render : settings.sections.get? "render" = some (.object settings.sizeMembers) := rfl
  have ref : settings.sections.get? "ref" = some (.object settings.prefixMembers) := rfl
  have log : settings.sections.get? "log" = some (.object settings.logMembers) := rfl
  have names : checkNames settings.sections ["render", "ref", "log"] = .ok () := rfl
  rw [ofMembers, violation?]
  simp only [bind, Except.bind, checkMember_of_get? render, checkMember_of_get? ref,
    checkMember_of_get? log, checkSizes_sizeMembers, checkPrefixes_prefixMembers,
    checkLog_logMembers, names]
  -- Both sides are one case distinction by now, and each outcome names its path.
  split_ifs with small large crossed known
  all_goals rfl

/-! Settings that were read. -/

/-- A step that succeeds passes its value on. -/
theorem exists_of_bind_eq_ok {α β : Type} {step : Check α} {next : α → Check β} {result : β}
    (done : step >>= next = .ok result) :
    ∃ value, step = .ok value ∧ next value = .ok result := by
  cases found : step with
  | error violation =>
      rw [found] at done
      cases done
  | ok value =>
      rw [found] at done
      exact ⟨value, rfl, done⟩

/-- What holds of the default and of every value that passes holds of a member. -/
theorem of_checkMember {α : Type} (holds : α → Prop) {members : Entries Json} {name : String}
    {default result : α} {check : Json → Check α} (kept : holds default)
    (passed : ∀ value result, check value = .ok result → holds result)
    (done : checkMember members name default check = .ok result) : holds result := by
  rw [checkMember] at done
  split at done
  · next value found =>
      cases checked : check value with
      | error violation =>
          rw [checked] at done
          cases done
      | ok result =>
          rw [checked] at done
          cases done
          exact passed value _ checked
  · cases done
    exact kept

/-- The default sizes keep the rules. -/
theorem areSizes_default : AreSizes 8 72 :=
  ⟨by decide +kernel, by decide +kernel, by decide +kernel⟩

/-- A size that passes is positive. -/
theorem lt_of_checkSize {value : Json} {size : Binary64} (done : checkSize value = .ok size) :
    Binary64.lt 0 size = true := by
  obtain ⟨number, -, checked⟩ := exists_of_bind_eq_ok done
  split_ifs at checked with positive
  · cases checked
    exact positive
  · cases checked

/-- Sizes that pass keep the rules. -/
theorem areSizes_of_checkSizes {value : Json} {sizes : Binary64 × Binary64}
    (done : checkSizes value = .ok sizes) : AreSizes sizes.1 sizes.2 := by
  obtain ⟨members, -, done⟩ := exists_of_bind_eq_ok done
  obtain ⟨smallest, first, done⟩ := exists_of_bind_eq_ok done
  obtain ⟨largest, second, done⟩ := exists_of_bind_eq_ok done
  obtain ⟨-, -, done⟩ := exists_of_bind_eq_ok done
  split_ifs at done with crossed
  · cases done
  · cases done
    exact ⟨of_checkMember (Binary64.lt 0 · = true) areSizes_default.smallest_positive
        (fun _ _ => lt_of_checkSize) first,
      of_checkMember (Binary64.lt 0 · = true) areSizes_default.largest_positive
        (fun _ _ => lt_of_checkSize) second, by simpa using crossed⟩

/-- A level that passes is known. -/
theorem mem_of_checkLevel {value : Json} {level : String} (done : checkLevel value = .ok level) :
    level ∈ levels := by
  cases value with
  | string name =>
      rw [checkLevel] at done
      split_ifs at done with known
      · cases done
        exact List.contains_iff_mem.mp known
      · cases done
  | null | boolean | integer | number | array | object => cases done

/-- The level of a section that passes is known. -/
theorem mem_of_checkLog {value : Json} {level : String} (done : checkLog value = .ok level) :
    level ∈ levels := by
  obtain ⟨members, -, done⟩ := exists_of_bind_eq_ok done
  obtain ⟨found, checked, done⟩ := exists_of_bind_eq_ok done
  obtain ⟨-, -, done⟩ := exists_of_bind_eq_ok done
  cases done
  exact of_checkMember (· ∈ levels) (by simp [levels]) (fun _ _ => mem_of_checkLevel) checked

theorem isValid_default : ({} : Settings).IsValid :=
  ⟨areSizes_default, by simp [levels]⟩

/-- Settings that pass are valid. -/
theorem isValid_of_ofMembers {members : Entries Json} {settings : Settings}
    (done : ofMembers members = .ok settings) : settings.IsValid := by
  obtain ⟨sizes, render, done⟩ := exists_of_bind_eq_ok done
  obtain ⟨prefixes, -, done⟩ := exists_of_bind_eq_ok done
  obtain ⟨level, log, done⟩ := exists_of_bind_eq_ok done
  obtain ⟨-, -, done⟩ := exists_of_bind_eq_ok done
  cases done
  exact ⟨of_checkMember (fun sizes => AreSizes sizes.1 sizes.2) areSizes_default
      (fun _ _ => areSizes_of_checkSizes) render,
    of_checkMember (· ∈ levels) (by simp [levels]) (fun _ _ => mem_of_checkLog) log⟩

end CrossRef.Settings
