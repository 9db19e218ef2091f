/-!
# Replies

What comes back for a request over the network. A document was received if
the status is no error.
-/

namespace AnchoredMetadata

/-- What comes back for a request. -/
inductive Reply where
  /-- Nothing: no connection, or it broke off. -/
  | dropped
  /-- A status and a body. -/
  | answered (status : Nat) (body : List UInt8)
  deriving DecidableEq, Repr

/-- Why a reply holds no document. -/
inductive RequestError where
  /-- Nothing came back. -/
  | dropped
  /-- The status is an error. -/
  | refused (status : Nat)
  deriving DecidableEq, Repr

/-- The wording of a failed request. -/
def RequestError.message : RequestError → String
  | .dropped => "http request failed: no answer"
  | .refused status => "http request failed: status " ++ toString status

/-- The document in a reply. A status below 400 is a success, whatever the body. -/
def Reply.document : Reply → Except RequestError (List UInt8)
  | .dropped => .error .dropped
  | .answered status body => if status < 400 then .ok body else .error (.refused status)

end AnchoredMetadata
