import AnchoredMetadata.Log.Line
import AnchoredMetadata.Service.Settings.File

/-!
# Logging of the service

The settings say what is logged and how. A variable of the environment may name
a filter instead, and another a format; a format that is not known is ignored
with a warning.
-/

namespace AnchoredMetadata.Service

/-- How entries are logged. -/
structure Logger where
  /-- Which entries are shown. -/
  filter : Log.Filter
  /-- How they are shown. -/
  format : Log.Format
  deriving DecidableEq, Repr

namespace Logger

/-- The variable with a filter. -/
def filterVariable : String := "RUST_LOG"

/-- The variable with a format. -/
def formatVariable : String := "RUST_LOG_FORMAT"

/-- The warning about a format that is not known. -/
def formatIgnored (e : Log.UnknownFormat) : Log.Entry :=
  ⟨"logger", .warn, "Ignoring " ++ formatVariable ++ ": " ++ e.message, []⟩

/-- The format that the environment names, or else the given one, and what is reported of it. -/
def resolveFormat (e : Environment) (format : Log.Format) : Log.Format × List Log.Entry :=
  match e.value? formatVariable with
  | none => (format, [])
  | some word =>
    match Log.Format.ofText word with
    | .ok f => (f, [])
    | .error e => (format, [formatIgnored e])

/-- What comes of setting up a logger. -/
structure SetUp where
  /-- The logger. -/
  logger : Logger
  /-- Notices about the filter that do not go to the log. -/
  notices : List String
  /-- The first entries. -/
  entries : List Log.Entry

/-- Set up a logger with a threshold and a format, unless the environment says otherwise. -/
def setUp (e : Environment) (threshold : Log.Threshold) (format : Log.Format) : SetUp :=
  let (filter, bad) := Log.Filter.ofText ((e.value? filterVariable).getD "") threshold
  let (format, entries) := resolveFormat e format
  ⟨⟨filter, format⟩, bad.map Log.Filter.ignored, entries⟩

/-- The lines of entries. -/
def lines (l : Logger) (now : Time.Instant) (entries : List Log.Entry) : String :=
  let shown := entries.filter fun e => l.filter.shows e.target e.record.level
  String.join (shown.map fun e => (match l.format with
    | .compact => e.line
    | .json => String.ofList (e.jsonLine now.text)) ++ "\n")

end Logger

end AnchoredMetadata.Service
