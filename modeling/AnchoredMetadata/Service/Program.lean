import AnchoredMetadata.Service.Arguments
import AnchoredMetadata.Service.Session

/-!
# The program

What the service does with its arguments up to where it serves: explain itself,
describe its settings, fail with a report, or start a session.
-/

namespace AnchoredMetadata.Service

/-- What a program has written. -/
structure Output where
  /-- Written for others to use. -/
  standard : String
  /-- Written about faults. -/
  error : String
  deriving DecidableEq, Repr

/-- What comes of calling the program. -/
structure Program where
  /-- The disk afterwards. -/
  disk : Disk
  /-- What was written. -/
  output : Output
  /-- The session that goes on, or the exit code. -/
  result : Except Nat Session

namespace Program

/-- The causes of settings that cannot be loaded. -/
def settingsCauses (e : Settings.FileError) : List String :=
  e.message :: match e with
    | .unreadable _ cause => [cause.message]
    | .unwritable _ cause => [cause.message]
    | .malformed => ["TOML parse error"]
    | .unwritten cause => [cause.message]
    | .noDirectory => []

/-- End with a report. -/
def fail (d : Disk) (standard notices : String) (f : Failure) : Program :=
  ⟨d, ⟨standard, notices ++ f.report⟩, .error 1⟩

/-- Lines of notices. -/
def noticeText (notices : List String) : String := String.join (notices.map (· ++ "\n"))

/-- Serve with settings. -/
def serve (d : Disk) (e : Environment) (s : Settings) (reply : Nat → Reply) (now : Time.Instant) :
    Program :=
  match Plan.ofSettings s e d with
  | ⟨none, .error f⟩ => fail d "" "" f
  | ⟨some log, .error f⟩ =>
    fail d (log.logger.lines now log.entries) (noticeText log.notices) f
  | ⟨log, .ok plan⟩ =>
    let (session, entries) := Session.start plan reply now
    let (before, notices) := match log with
      | some log => (log.entries, log.notices)
      | none => ([], [])
    ⟨d, ⟨plan.logger.lines now (before ++ entries), noticeText notices⟩, .ok session⟩

/-- Load the settings of a request, and describe them or serve with them. -/
def handle (d : Disk) (e : Environment) (r : Request) (reply : Nat → Reply) (now : Time.Instant) :
    Program :=
  let loaded := Settings.load d e r.path
  match loaded.result with
  | .error error =>
    fail loaded.disk "" "" ⟨"failed to load configuration", settingsCauses error⟩
  | .ok s =>
    if r.describes then ⟨loaded.disk, ⟨s.description ++ "\n", ""⟩, .error 0⟩
    else serve loaded.disk e s reply now

/-- Call the program. `reply` tells what comes back from the locations of anchors. -/
def call (arguments : List String) (d : Disk) (e : Environment) (reply : Nat → Reply)
    (now : Time.Instant) : Program :=
  match Invocation.ofArguments arguments with
  | .error error => ⟨d, ⟨"", error.report⟩, .error 2⟩
  | .ok .help => ⟨d, ⟨helpText, ""⟩, .error 0⟩
  | .ok .version => ⟨d, ⟨versionText, ""⟩, .error 0⟩
  | .ok (.run request) => handle d e request reply now

/-- The settings file that a call looks at. -/
def settingsFile? (arguments : List String) (e : Environment) : Option Disk.Path :=
  match Invocation.ofArguments arguments with
  | .ok (.run request) =>
    match request.path with
    | some path => some (Settings.file path)
    | none => e.settingsPath?
  | _ => none

/-- The keystore that a call looks at, once the settings file is on the disk. -/
def keystoreFile? (d : Disk) (settingsFile : Disk.Path) : Option Disk.Path :=
  match (Settings.loadFile d settingsFile).result with
  | .ok s => s.anchors.keystore.map TrustStoreSettings.path
  | .error _ => none

end Program

end AnchoredMetadata.Service
