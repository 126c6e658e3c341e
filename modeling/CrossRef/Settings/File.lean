import CrossRef.Json.Reader
import CrossRef.Json.Writer
import CrossRef.Settings.Validation
import CrossRef.Text.Quoted
import CrossRef.Text.Utf8

/-!
The settings file: how it is read, and how it is saved through a temporary file so that the old
file stays whole when saving fails.
-/

namespace CrossRef

/-- What stands under a name in the directory of the settings. A dangling link leads into a
directory that is missing. -/
inductive Slot
  | absent
  | file (bytes : List UInt8)
  | directory
  | danglingLink
  deriving DecidableEq

namespace Slot

/-- Whether there is something to be seen under the name; a link to nothing cannot be seen. -/
def isSeen : Slot → Bool
  | absent | danglingLink => false
  | file _ | directory => true

/-- What is left under the name when it is unlinked. Nothing and a directory cannot be unlinked. -/
def unlinked? : Slot → Option Slot
  | file _ | danglingLink => some absent
  | absent | directory => none

end Slot

/-- The directory of the settings: its path, the settings file and the temporary file. -/
structure SettingsHome where
  path : String
  settings : Slot := .absent
  temporary : Slot := .absent
  deriving DecidableEq

namespace SettingsHome

/-- The path of a name in the directory. -/
def pathOf (home : SettingsHome) (name : String) : String :=
  if home.path.endsWith "/" then home.path ++ name else home.path ++ "/" ++ name

/-- The name of the settings file. -/
def settingsName : String := "config.json"

/-- The name of the temporary file. -/
def temporaryName : String := settingsName ++ ".tmp"

/-- The path of the settings file. -/
def settingsPath (home : SettingsHome) : String :=
  home.pathOf settingsName

/-- The path of the temporary file. -/
def temporaryPath (home : SettingsHome) : String :=
  home.pathOf temporaryName

/-- Whether the settings file can be seen. -/
def hasSettings (home : SettingsHome) : Bool :=
  home.settings.isSeen

/-- The names in the directory, in order. -/
def listing (home : SettingsHome) : List String :=
  (if home.settings = .absent then [] else [settingsName]) ++
    (if home.temporary = .absent then [] else [temporaryName])

end SettingsHome

namespace Settings

/-- Why settings were not loaded. -/
inductive LoadFault
  | encoding (fault : Text.Utf8Fault)
  | malformed (path : String) (obstacle : Json.Obstacle Json.Position)
  | notAnObject (typeName : String)
  | broken (violation : Violation)
  | isDirectory (path : String)

/-- The words for a fault of the encoding. -/
def encodingMessage (fault : Text.Utf8Fault) : String :=
  let reason := match fault.cause with
    | .invalidStart => "invalid start byte"
    | .invalidContinuation => "invalid continuation byte"
    | .unexpectedEnd => "unexpected end of data"
  let place :=
    if fault.stop - fault.start = 1 then
      "byte 0x" ++ String.ofList (Text.lowerHex 2 fault.firstByte.toNat) ++ " in position " ++
        toString fault.start
    else "bytes in position " ++ toString fault.start ++ "-" ++ toString (fault.stop - 1)
  "'utf-8' codec can't decode " ++ place ++ ": " ++ reason

/-- The words for a path that is a directory. -/
def directoryMessage (path : String) : String :=
  "[Errno 21] Is a directory: " ++ Text.quoted path

namespace LoadFault

/-- The text of a fault. -/
def message : LoadFault → String
  | encoding fault => encodingMessage fault
  | malformed path obstacle =>
    match obstacle with
    | .fault .. => "Invalid JSON in config file " ++ path ++ ": " ++ obstacle.message
    | .tooManyDigits _ => obstacle.message
  | notAnObject typeName =>
    "btex.api.config.BtexConfig.BtexConfig() argument after ** must be a mapping, not " ++ typeName
  | broken violation => "Configuration validation error: " ++ violation.message
  | isDirectory path => directoryMessage path

/-- Faults of the content of a file are reported by commands; the others stop the program. -/
def isReported : LoadFault → Bool
  | encoding _ | malformed .. | broken _ => true
  | notAnObject _ | isDirectory _ => false

end LoadFault

/-- The name of the type of a datum. -/
def typeName : Json → String
  | .null => "NoneType"
  | .boolean _ => "bool"
  | .integer _ => "int"
  | .number _ => "float"
  | .string _ => "str"
  | .array _ => "list"
  | .object _ => "dict"

/-- Every end of a line is read as a line feed. -/
def readLines : List Char → List Char
  | '\r' :: '\n' :: rest => '\n' :: readLines rest
  | '\r' :: rest => '\n' :: readLines rest
  | c :: rest => c :: readLines rest
  | [] => []

/-- The settings that a text spells. -/
def ofText (path : String) (text : List Char) : Except LoadFault Settings :=
  match Json.read text with
  | .error obstacle => .error (.malformed path obstacle)
  | .ok (.object members) => (ofMembers members).mapError .broken
  | .ok value => .error (.notAnObject (typeName value))

/-- The settings that the bytes of a file spell. -/
def ofBytes (path : String) (bytes : List UInt8) : Except LoadFault Settings :=
  match Text.decodeUtf8 bytes with
  | .error fault => .error (.encoding fault)
  | .ok text => ofText path (readLines text)

/-- The settings of a directory; without a file they are the defaults. -/
def load (home : SettingsHome) : Except LoadFault Settings :=
  match home.settings with
  | .absent | .danglingLink => .ok {}
  | .file bytes => ofBytes home.settingsPath bytes
  | .directory => .error (.isDirectory home.settingsPath)

/-- The text of the settings file. -/
def fileText (settings : Settings) : String :=
  settings.toJson.write 4

/-- The bytes of the settings file. -/
def fileBytes (settings : Settings) : List UInt8 :=
  settings.fileText.toList.flatMap String.utf8EncodeChar

/-- Why settings were not saved. -/
inductive SaveFault
  | temporaryIsDirectory (path : String)
  | temporaryLeadsNowhere (path : String)
  | settingsIsDirectory (temporary path : String)
  deriving DecidableEq, Repr

/-- The text of a fault. -/
def SaveFault.message : SaveFault → String
  | temporaryIsDirectory path => "Failed to save config: " ++ directoryMessage path
  | temporaryLeadsNowhere path =>
    "Failed to save config: [Errno 2] No such file or directory: " ++ Text.quoted path
  | settingsIsDirectory temporary path =>
    "Failed to save config: " ++ directoryMessage temporary ++ " -> " ++ Text.quoted path

/-- The temporary file is opened for writing: it is made, or emptied if there is one. Through a link
to nothing no file is made. -/
def openTemporary (home : SettingsHome) : Except SaveFault SettingsHome :=
  match home.temporary with
  | .absent | .file _ => .ok { home with temporary := .file [] }
  | .directory => .error (.temporaryIsDirectory home.temporaryPath)
  | .danglingLink => .error (.temporaryLeadsNowhere home.temporaryPath)

/-- Bytes are added to the temporary file that was opened. -/
def writeTemporary (home : SettingsHome) (bytes : List UInt8) : SettingsHome :=
  match home.temporary with
  | .file written => { home with temporary := .file (written ++ bytes) }
  | .absent | .directory | .danglingLink => home

/-- The temporary file takes the place of the settings file, but not of a directory. -/
def moveTemporary (home : SettingsHome) : Except SaveFault SettingsHome :=
  match home.settings with
  | .directory => .error (.settingsIsDirectory home.temporaryPath home.settingsPath)
  | .absent | .file _ | .danglingLink =>
    .ok { home with settings := home.temporary, temporary := .absent }

/-- The temporary file is removed if it can be seen. When that fails too, it stays. -/
def discardTemporary (home : SettingsHome) : SettingsHome :=
  if home.temporary.isSeen then
    { home with temporary := home.temporary.unlinked?.getD home.temporary }
  else home

/-- The bytes are written to the temporary file, which then takes the place of the settings file. A
fault leaves behind what was done before it. -/
def replaceFile (home : SettingsHome) (bytes : List UInt8) : SettingsHome × Option SaveFault :=
  match openTemporary home with
  | .error fault => (home, some fault)
  | .ok opened =>
    let written := writeTemporary opened bytes
    match moveTemporary written with
    | .error fault => (written, some fault)
    | .ok moved => (moved, none)

/-- The settings file is replaced. After a fault the temporary file is discarded. -/
def save (settings : Settings) (home : SettingsHome) : SettingsHome × Option SaveFault :=
  match replaceFile home settings.fileBytes with
  | (left, some fault) => (discardTemporary left, some fault)
  | (saved, none) => (saved, none)

end Settings

end CrossRef
