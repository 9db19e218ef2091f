import AnchoredMetadata.Service.Settings.Document

/-!
# The settings file

Settings are kept in a file whose name ends in `.toml`; a path with another
ending stands for the file with this one. Without a path the file stands in a
directory of its own among the settings of the user. If there is no file, it is
written with the standard settings.
-/

namespace AnchoredMetadata.Service

/-- What the system tells a program. -/
structure Environment where
  /-- Variables with their values. -/
  entries : List (String × String)
  /-- The home of the user that the system has on record. -/
  home : Option Disk.Path

namespace Environment

/-- The value of a variable. -/
def value? (e : Environment) (name : String) : Option String := e.entries.lookup name

/-- The directory with the settings of the user. -/
def settingsDirectory? (e : Environment) : Option Disk.Path :=
  match e.value? "XDG_CONFIG_HOME" with
  | some directory => some (.ofText directory)
  | none =>
    let home : Option Disk.Path := match e.value? "HOME" with
      | some home => some (.ofText home)
      | none => e.home
    home.map fun home => home.append (.ofText ".config")

/-- Where the settings are if no path is given. -/
def settingsPath? (e : Environment) : Option Disk.Path :=
  e.settingsDirectory?.map fun directory =>
    directory.append (.ofText "federation-trust/config.toml")

end Environment

namespace Settings

/-- The ending of the name of a settings file. -/
def extension : Disk.Name := Text.utf8 "toml"

/-- The file that a path stands for. -/
def file (p : Disk.Path) : Disk.Path :=
  if p.extension? = some extension then p else p.withExtension extension

/-- Why settings cannot be loaded or saved. -/
inductive FileError where
  /-- The file cannot be read. -/
  | unreadable (path : Disk.Path) (cause : Disk.Fault)
  /-- The file cannot be written. -/
  | unwritable (path : Disk.Path) (cause : Disk.Fault)
  /-- The file holds no settings. -/
  | malformed
  /-- The settings have no written form. -/
  | unwritten (cause : WriteFault)
  /-- No path is given, and the user has no directory for settings. -/
  | noDirectory
  deriving DecidableEq, Repr

/-- The wording of a failure. -/
def FileError.message : FileError → String
  | .unreadable path e => "failed to read config file " ++ path.shown ++ ": " ++ e.message
  | .unwritable path e => "failed to write config file " ++ path.shown ++ ": " ++ e.message
  | .malformed => "failed to parse config file: TOML parse error"
  | .unwritten e => "failed to serialize config: " ++ e.message
  | .noDirectory => "no config directory available, set XDG_CONFIG_HOME or HOME"

/-- What comes of an operation on the disk. -/
structure FileOutcome (α : Type) where
  /-- The disk afterwards. -/
  disk : Disk
  /-- The result. -/
  result : Except FileError α

/-- Write settings to a file, and make the directories on the way that are missing. -/
def save (d : Disk) (path : Disk.Path) (s : Settings) : FileOutcome Unit :=
  match s.write with
  | .error e => ⟨d, .error (.unwritten e)⟩
  | .ok document =>
    match d.makeParents path with
    | (made, .error e) => ⟨made, .error (.unwritable path e)⟩
    | (made, .ok ()) =>
      match made.write path (Text.utf8Encode document) with
      | .error e => ⟨made, .error (.unwritable path e)⟩
      | .ok written => ⟨written, .ok ()⟩

/-- Read settings from a file; a file that does not exist is written with the standard ones. -/
def loadFile (d : Disk) (path : Disk.Path) : FileOutcome Settings :=
  if d.contains path then
    match d.readText path with
    | .error e => ⟨d, .error (.unreadable path e)⟩
    | .ok document =>
      match read? document with
      | none => ⟨d, .error .malformed⟩
      | some s => ⟨d, .ok s⟩
  else
    let saved := save d path standard
    ⟨saved.disk, saved.result.map fun _ => standard⟩

/-- Load the settings for a path, or those of the user. -/
def load (d : Disk) (e : Environment) (path : Option Disk.Path) : FileOutcome Settings :=
  match path with
  | some path => loadFile d (file path)
  | none =>
    match e.settingsPath? with
    | some path => loadFile d path
    | none => ⟨d, .error .noDirectory⟩

end Settings

end AnchoredMetadata.Service
