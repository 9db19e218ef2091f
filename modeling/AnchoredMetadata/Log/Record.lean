/-!
# Log records

What a component reports: a level, a message, and named values as text.
-/

namespace AnchoredMetadata.Log

/-- How grave a report is. -/
inductive Level where
  /-- Every step. -/
  | trace
  /-- Detail for developers. -/
  | debug
  /-- The normal course of things. -/
  | info
  /-- Something to look at. -/
  | warn
  /-- Something went wrong. -/
  | error
  deriving DecidableEq, Repr

/-- The name of a level in capitals. -/
def Level.name : Level → String
  | .trace => "TRACE"
  | .debug => "DEBUG"
  | .info => "INFO"
  | .warn => "WARN"
  | .error => "ERROR"

/-- The rank of a level; graver levels have a lower one. -/
def Level.rank : Level → Nat
  | .error => 1
  | .warn => 2
  | .info => 3
  | .debug => 4
  | .trace => 5

/-- A report. -/
structure Record where
  /-- How grave it is. -/
  level : Level
  /-- What happened. -/
  message : String
  /-- Named values. -/
  fields : List (String × String)
  deriving DecidableEq, Repr

/-- Whether a report is a warning or an error. -/
def Record.isGrave (r : Record) : Bool := r.level.rank ≤ 2

end AnchoredMetadata.Log
