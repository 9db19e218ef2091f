import AnchoredMetadata.Json.Message
import AnchoredMetadata.Json.Record
import AnchoredMetadata.Json.Writer
import AnchoredMetadata.Metadata.Tree

/-!
# Metadata documents

The JSON form of the metadata tree. Writing names every field except the name
and identifier of a group without one; reading takes missing fields as empty.
-/

namespace AnchoredMetadata.Metadata

open Json

/-! ## Writing -/

/-- A list of texts. -/
def writeTexts (texts : List String) : List Char := writeList (texts.map writeString)

/-- A key descriptor. -/
def writeKey (k : KeyDescriptor) : List Char :=
  writeObject [writeMember "use" (writeString k.keyUse.word),
    writeMember "certificates" (writeTexts k.certificates)]

/-- A role descriptor. -/
def writeRole (r : RoleDescriptor) : List Char :=
  writeObject [writeMember "role" (writeString r.role.elementName),
    writeMember "key_descriptors" (writeList (r.keys.map writeKey))]

/-- An entity. -/
def writeEntity (e : Entity) : List Char :=
  writeObject [writeMember "entity_id" (writeString e.id),
    writeMember "roles" (writeList (e.roles.map writeRole))]

/-- A member that is left out when there is no text. -/
def writeOptional (key : String) : Option String → List (List Char)
  | some s => [writeMember key (writeString s)]
  | none => []

mutual

/-- A group. -/
def writeGroup : Group → List Char
  | .mk name id entities groups =>
    writeObject (writeOptional "name" name ++ writeOptional "id" id ++
      [writeMember "entities" (writeList (entities.map writeEntity)),
        writeMember "groups" (writeList (writeGroups groups))])

/-- Each of some groups. -/
def writeGroups : List Group → List (List Char)
  | [] => []
  | g :: rest => writeGroup g :: writeGroups rest

end

/-- A whole document. -/
def write : Metadata → List Char
  | .entity e => writeObject [writeMember "entity" (writeEntity e)]
  | .group g => writeObject [writeMember "group" (writeGroup g)]

/-! ## Reading -/

/-- The uses by their words. -/
def useChoices : List (String × KeyUse) :=
  [KeyUse.signing, .encryption, .unspecified].map fun u => (u.word, u)

/-- The roles by their element names. -/
def roleChoices : List (String × Role) := Role.all.map fun r => (r.elementName, r)

/-- A string wherever one may stand. -/
def readText : Reader String := readString "a string"

/-- The fields of a key descriptor gathered so far. -/
structure KeyFields where
  /-- The use. -/
  keyUse : Option KeyUse
  /-- The certificates. -/
  certificates : Option (List String)

/-- The fields of a key descriptor. -/
def keyFields (depth : Nat) : List (Json.Field KeyFields) :=
  [.named "use" false KeyFields.keyUse (fun s a => { s with keyUse := some a })
      (readChoice useChoices (depth - 1)),
    .named "certificates" false KeyFields.certificates
      (fun s a => { s with certificates := some a }) (readList (depth - 1) readText)]

/-- Take off a key descriptor; without a use the key is for any. -/
def readKey (depth : Nat) : Reader KeyDescriptor := fun bytes => do
  let (s, rest) ← readRecord "KeyDescriptor" (keyFields depth) ⟨none, none⟩ depth bytes
  return (⟨s.keyUse.getD .unspecified, s.certificates.getD []⟩, rest)

/-- The fields of a role descriptor gathered so far. -/
structure RoleFields where
  /-- The role. -/
  role : Option Role
  /-- The keys. -/
  keys : Option (List KeyDescriptor)

/-- The fields of a role descriptor. -/
def roleFields (depth : Nat) : List (Json.Field RoleFields) :=
  [.named "role" true RoleFields.role (fun s a => { s with role := some a })
      (readChoice roleChoices (depth - 1)),
    .named "key_descriptors" false RoleFields.keys (fun s a => { s with keys := some a })
      (readList (depth - 1) (readKey (depth - 2)))]

/-- Take off a role descriptor. -/
def readRole (depth : Nat) : Reader RoleDescriptor := fun bytes => do
  let (s, rest) ← readRecord "RoleDescriptor" (roleFields depth) ⟨none, none⟩ depth bytes
  match s.role with
  | some role => return (⟨role, s.keys.getD []⟩, rest)
  | none => throw (.missingField "role")

/-- The fields of an entity gathered so far. -/
structure EntityFields where
  /-- The identifier. -/
  id : Option String
  /-- The roles. -/
  roles : Option (List RoleDescriptor)

/-- The fields of an entity. -/
def entityFields (depth : Nat) : List (Json.Field EntityFields) :=
  [.named "entity_id" true EntityFields.id (fun s a => { s with id := some a }) readText,
    .named "roles" false EntityFields.roles (fun s a => { s with roles := some a })
      (readList (depth - 1) (readRole (depth - 2)))]

/-- Take off an entity. -/
def readEntity (depth : Nat) : Reader Entity := fun bytes => do
  let (s, rest) ← readRecord "EntityDescriptor" (entityFields depth) ⟨none, none⟩ depth bytes
  match s.id with
  | some id => return (⟨id, s.roles.getD []⟩, rest)
  | none => throw (.missingField "entity_id")

/-- The fields of a group gathered so far; a field given as `null` counts as given. -/
structure GroupFields where
  /-- The name. -/
  name : Option (Option String)
  /-- The identifier. -/
  id : Option (Option String)
  /-- The entities. -/
  entities : Option (List Entity)
  /-- The nested groups. -/
  groups : Option (List Group)

/-- The fields of a group, with a reader for the groups nested in it. -/
def groupFields (nested : Reader Group) (depth : Nat) : List (Json.Field GroupFields) :=
  [.named "name" false GroupFields.name (fun s a => { s with name := some a })
      (readOptional readText),
    .named "id" false GroupFields.id (fun s a => { s with id := some a }) (readOptional readText),
    .named "entities" false GroupFields.entities (fun s a => { s with entities := some a })
      (readList (depth - 1) (readEntity (depth - 2))),
    .named "groups" false GroupFields.groups (fun s a => { s with groups := some a })
      (readList (depth - 1) nested)]

/-- Take off a group, with a reader for the groups nested in it. -/
def readGroupWith (nested : Reader Group) (depth : Nat) : Reader Group := fun bytes => do
  let (s, rest) ← readRecord "EntitiesDescriptor" (groupFields nested depth)
    ⟨none, none, none, none⟩ depth bytes
  return (.mk (s.name.getD none) (s.id.getD none) (s.entities.getD []) (s.groups.getD []), rest)

/-- Take off a group. A nested group takes two brackets more: its own and that of the list. -/
def readGroup : (depth : Nat) → Reader Group
  | 0 => readGroupWith (fun _ => .error .recursionLimit) 0
  | 1 => readGroupWith (fun _ => .error .recursionLimit) 1
  | depth + 2 => readGroupWith (readGroup depth) (depth + 2)

/-- Take off a document. -/
def readTree (depth : Nat) : Reader Metadata :=
  readTagged [
    ("entity", fun bytes => (readEntity (depth - 1) bytes).map fun (e, rest) => (.entity e, rest)),
    ("group", fun bytes => (readGroup (depth - 1) bytes).map fun (g, rest) => (.group g, rest))]
    depth

/-- Read a document. -/
def read (document : List UInt8) : Except Fault Metadata :=
  readDocument (readTree depthLimit) document

/-- The wording of a fault of a document. -/
def faultText (f : Fault) : String := "failed to parse metadata: " ++ f.message

end AnchoredMetadata.Metadata
