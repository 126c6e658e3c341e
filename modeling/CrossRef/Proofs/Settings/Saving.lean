import CrossRef.Proofs.Text.Encoding
import CrossRef.Settings.File

/-!
Saving is all or nothing: the settings file holds the new text and the temporary file is gone, or
the directory is as it was before.
-/

namespace CrossRef.Settings

/-- The home with bytes in its temporary file. -/
def written (home : SettingsHome) (bytes : List UInt8) : SettingsHome :=
  { home with temporary := .file bytes }

/-- The home with bytes in its settings file, and no temporary file. -/
def replaced (home : SettingsHome) (bytes : List UInt8) : SettingsHome :=
  { home with settings := .file bytes, temporary := .absent }

/-- What stands in the way of saving: a directory under one of the two names, or a temporary name
that leads nowhere. -/
def IsBlocked (home : SettingsHome) : Prop :=
  home.settings = .directory ∨ home.temporary = .directory ∨ home.temporary = .danglingLink

/-! The steps of saving. -/

/-- The temporary file can be opened exactly when no directory and no link to nothing is there. -/
theorem openTemporary_eq_ok_iff {home opened : SettingsHome} :
    openTemporary home = .ok opened ↔
      (home.temporary ≠ .directory ∧ home.temporary ≠ .danglingLink) ∧
        opened = written home [] := by
  cases found : home.temporary <;> simp [openTemporary, written, found, eq_comm]

/-- When the temporary file cannot be opened, discarding it changes nothing: it cannot be seen, or
cannot be unlinked. -/
theorem discardTemporary_of_fault {home : SettingsHome} {fault : SaveFault}
    (failed : openTemporary home = .error fault) : discardTemporary home = home := by
  obtain ⟨path, settings, temporary⟩ := home
  cases temporary with
  | absent | file => cases failed
  | directory | danglingLink => rfl

/-- A temporary file that was written where there was none is discarded without a trace. -/
theorem discardTemporary_written {home : SettingsHome} (gone : home.temporary = .absent)
    (bytes : List UInt8) : discardTemporary (written home bytes) = home := by
  obtain ⟨path, settings, temporary⟩ := home
  subst gone
  rfl

/-- The temporary file takes any place but that of a directory. -/
theorem moveTemporary_written {home : SettingsHome} (free : home.settings ≠ .directory)
    (bytes : List UInt8) : moveTemporary (written home bytes) = .ok (replaced home bytes) := by
  obtain ⟨path, settings, temporary⟩ := home
  cases settings with
  | absent | file | danglingLink => rfl
  | directory => exact absurd rfl free

/-- The temporary file does not take the place of a directory. -/
theorem moveTemporary_written_of_directory {home : SettingsHome}
    (taken : home.settings = .directory) (bytes : List UInt8) :
    moveTemporary (written home bytes) =
      .error (.settingsIsDirectory home.temporaryPath home.settingsPath) := by
  obtain ⟨path, settings, temporary⟩ := home
  subst taken
  rfl

/-- Once the temporary file is open, it is written and moved. -/
theorem replaceFile_of_opens {home opened : SettingsHome}
    (opens : openTemporary home = .ok opened) (bytes : List UInt8) :
    replaceFile home bytes =
      match moveTemporary (written home bytes) with
      | .error fault => (written home bytes, some fault)
      | .ok moved => (moved, none) := by
  rw [replaceFile, opens, (openTemporary_eq_ok_iff.mp opens).2]
  rfl

/-! Saving as a whole. -/

/-- Without an obstacle the settings are replaced. -/
theorem save_of_not_isBlocked (settings : Settings) {home : SettingsHome}
    (free : ¬IsBlocked home) :
    settings.save home = (replaced home settings.fileBytes, none) := by
  simp only [IsBlocked, not_or] at free
  have opens := openTemporary_eq_ok_iff.mpr ⟨free.2, rfl⟩
  rw [save, replaceFile_of_opens opens, moveTemporary_written free.1]

/-- An obstacle is a fault, and leaves no temporary file that was not there before. -/
theorem save_of_isBlocked (settings : Settings) {home : SettingsHome} (blocked : IsBlocked home)
    (noFile : ∀ bytes, home.temporary ≠ .file bytes) :
    ∃ fault, settings.save home = (home, some fault) := by
  cases opens : openTemporary home with
  | error fault =>
      refine ⟨fault, ?_⟩
      rw [save, replaceFile, opens]
      simp only [discardTemporary_of_fault opens]
  | ok opened =>
      obtain ⟨noDirectory, noLink⟩ := (openTemporary_eq_ok_iff.mp opens).1
      have taken : home.settings = .directory := by
        simpa [IsBlocked, noDirectory, noLink] using blocked
      have gone : home.temporary = .absent := by
        cases found : home.temporary <;> simp_all
      refine ⟨.settingsIsDirectory home.temporaryPath home.settingsPath, ?_⟩
      rw [save, replaceFile_of_opens opens, moveTemporary_written_of_directory taken]
      simp only [discardTemporary_written gone]

/-- Saving succeeds in one way only: the settings are replaced. -/
theorem eq_replaced_of_save {settings : Settings} {home saved : SettingsHome}
    (saves : settings.save home = (saved, none)) : saved = replaced home settings.fileBytes := by
  cases opens : openTemporary home with
  | error fault =>
      rw [save, replaceFile, opens] at saves
      cases saves
  | ok opened =>
      by_cases taken : home.settings = .directory
      · rw [save, replaceFile_of_opens opens, moveTemporary_written_of_directory taken] at saves
        cases saves
      · rw [save, replaceFile_of_opens opens, moveTemporary_written taken] at saves
        cases saves
        rfl

/-- The text of the settings is read back from the bytes of the file. -/
theorem decodeUtf8_fileBytes (settings : Settings) :
    Text.decodeUtf8 settings.fileBytes = .ok settings.fileText.toList :=
  Text.decodeUtf8_encode _

/-! Main result. -/

/-- When no temporary file lies around, saving either replaces the settings file by one with the
new text and changes nothing else, or fails and changes nothing at all. It fails exactly when there
is an obstacle. -/
theorem save_allOrNothing (settings : Settings) {home : SettingsHome}
    (noFile : ∀ bytes, home.temporary ≠ .file bytes) :
    ((settings.save home = (replaced home settings.fileBytes, none) ∧
        Text.decodeUtf8 settings.fileBytes = .ok settings.fileText.toList) ∨
      ∃ fault, settings.save home = (home, some fault)) ∧
    ((settings.save home).2 ≠ none ↔ IsBlocked home) := by
  by_cases blocked : IsBlocked home
  · obtain ⟨fault, failed⟩ := save_of_isBlocked settings blocked noFile
    exact ⟨.inr ⟨fault, failed⟩, by simp [failed, blocked]⟩
  · have saved := save_of_not_isBlocked settings blocked
    exact ⟨.inl ⟨saved, decodeUtf8_fileBytes settings⟩, by simp [saved, blocked]⟩

/-- A home in which a directory has the name of the settings file. -/
def obstructedHome : SettingsHome := { path := "/home/user", settings := .directory }

/-- The directory is noticed only when the temporary file has been written, and that file is then
removed. -/
theorem save_allOrNothing_obstructed :
    (∀ bytes, obstructedHome.temporary ≠ .file bytes) ∧
    (((({} : Settings).save obstructedHome =
          (replaced obstructedHome ({} : Settings).fileBytes, none)) ∧
        Text.decodeUtf8 ({} : Settings).fileBytes = .ok ({} : Settings).fileText.toList) ∨
      ∃ fault, ({} : Settings).save obstructedHome = (obstructedHome, some fault)) ∧
    ((({} : Settings).save obstructedHome).2 ≠ none ↔ IsBlocked obstructedHome) :=
  have noFile (bytes : List UInt8) : obstructedHome.temporary ≠ .file bytes :=
    Slot.noConfusion
  ⟨noFile, save_allOrNothing {} noFile⟩

end CrossRef.Settings
