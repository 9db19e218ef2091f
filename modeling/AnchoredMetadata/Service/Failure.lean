/-!
# Failures

A failure says what could not be done and lists its causes, each the cause of
the one before.
-/

namespace AnchoredMetadata.Service

/-- Something that could not be done. -/
structure Failure where
  /-- What could not be done. -/
  message : String
  /-- Its cause, the cause of that, and so on. -/
  causes : List String
  deriving DecidableEq, Repr

namespace Failure

/-- A text whose later lines are moved to the right. -/
def indented (columns : Nat) (cs : List Char) : List Char :=
  cs.flatMap fun c => if c = '\n' then '\n' :: List.replicate columns ' ' else [c]

/-- A cause with its number. -/
def numbered (cause : String) (n : Nat) : String :=
  let number := toString n
  String.ofList (List.replicate (5 - number.length) ' ') ++ number ++ ": " ++
    String.ofList (indented 7 cause.toList)

/-- The causes, each from a new line. -/
def causesText : List String → String
  | [] => ""
  | [cause] => "\n\nCaused by:\n    " ++ String.ofList (indented 4 cause.toList)
  | causes =>
    "\n\nCaused by:" ++
      String.join (causes.zipIdx.map fun (cause, n) => "\n" ++ numbered cause n)

/-- The text of a report. -/
def report (f : Failure) : String := "Error: " ++ f.message ++ causesText f.causes ++ "\n"

end Failure

end AnchoredMetadata.Service
