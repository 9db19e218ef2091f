import AnchoredMetadata.Json.Writer
import AnchoredMetadata.Log.Filter

/-!
# Log lines

A record with the target it belongs to is shown as one line: the level, flush
right in five columns, the target, the message and the named values; or as a
JSON object with the time.
-/

namespace AnchoredMetadata.Log

/-- A record of a target. -/
structure Entry where
  /-- The part of the program that reports. -/
  target : String
  /-- What it reports. -/
  record : Record
  deriving DecidableEq, Repr

/-- The level of a record in five columns. -/
def Level.column (l : Level) : String :=
  String.ofList (List.replicate (5 - l.name.length) ' ') ++ l.name

/-- A named value. -/
def fieldText (field : String × String) : String := " " ++ field.1 ++ "=" ++ field.2

/-- An entry as a line. -/
def Entry.line (e : Entry) : String :=
  e.record.level.column ++ " " ++ e.target ++ ": " ++ e.record.message ++
    String.join (e.record.fields.map fieldText)

/-- An entry with a time as a JSON object. -/
def Entry.jsonLine (e : Entry) (time : String) : List Char :=
  let text (key value : String) : List Char := Json.writeMember key (Json.writeString value)
  Json.writeObject [text "timestamp" time, text "level" e.record.level.name,
    Json.writeMember "fields" (Json.writeObject
      (text "message" e.record.message :: e.record.fields.map fun (key, value) => text key value)),
    text "target" e.target]

end AnchoredMetadata.Log
