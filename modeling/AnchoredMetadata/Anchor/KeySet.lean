import AnchoredMetadata.Anchor
import AnchoredMetadata.Json.Message
import AnchoredMetadata.Json.Record
import AnchoredMetadata.Json.Writer

/-!
# Key sets

Anchors travel as a set of keys in JSON: the identifier of the entity is the
identifier of the key, and the chain its certificates.
-/

namespace AnchoredMetadata.Anchor

open Json

/-- An anchor as a key. -/
def write (a : Anchor) : List Char :=
  writeObject [writeMember "kid" (writeString a.entityId),
    writeMember "x5c" (writeList (a.chain.map writeString))]

/-- A set of keys. -/
def writeSet (anchors : List Anchor) : List Char :=
  writeObject [writeMember "keys" (writeList (anchors.map write))]

/-- The fields of a key gathered so far. -/
structure KeyFields where
  /-- The identifier. -/
  entityId : Option String
  /-- The chain. -/
  chain : Option (List String)

/-- The fields of a key. -/
def keyFields (depth : Nat) : List (Json.Field KeyFields) :=
  [.named "kid" true KeyFields.entityId (fun s a => { s with entityId := some a })
      (readString "a string"),
    .named "x5c" false KeyFields.chain (fun s a => { s with chain := some a })
      (readList (depth - 1) (readString "a string"))]

/-- Take off a key. -/
def read (depth : Nat) : Reader Anchor := fun bytes => do
  let (s, rest) ← readRecord "TrustAnchor" (keyFields depth) ⟨none, none⟩ depth bytes
  match s.entityId with
  | some id => return (⟨id, s.chain.getD []⟩, rest)
  | none => throw (.missingField "kid")

/-- The only field of a set of keys. -/
def setFields (depth : Nat) : List (Json.Field (Option (List Anchor))) :=
  [.named "keys" true (fun s => s) (fun _ a => some a) (readList (depth - 1) (read (depth - 2)))]

/-- Take off a set of keys. -/
def readKeys (depth : Nat) : Reader (List Anchor) := fun bytes => do
  let (s, rest) ← readRecord "TrustAnchorSet" (setFields depth) none depth bytes
  match s with
  | some anchors => return (anchors, rest)
  | none => throw (.missingField "keys")

/-- Read a document that holds a set of keys. -/
def readSet (document : List UInt8) : Except Fault (List Anchor) :=
  readDocument (readKeys depthLimit) document

/-- The wording of a fault of a key set. -/
def faultText (f : Fault) : String := "json error: " ++ f.message

end AnchoredMetadata.Anchor
