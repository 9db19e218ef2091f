import AnchoredMetadata.Log.Record
import AnchoredMetadata.Metadata.Tree
import AnchoredMetadata.Validation

/-!
# Certificate chain filters

A filter removes every descriptor of one role that lists a certificate its
validator does not accept. An entity left without roles goes too, and so does
a group left without entities and groups. Material that cannot be decoded, or
a validator that breaks down, discards the whole document.
-/

namespace AnchoredMetadata

/-- A filter for the descriptors of one role. -/
structure ChainFilter where
  /-- The role whose descriptors are checked. -/
  role : Role
  /-- The judge of their certificates. -/
  validator : Validator
  /-- What the certificates are judged against. -/
  store : TrustStore

namespace ChainFilter

/-- What a filter reports. -/
inductive Event where
  /-- A group is looked at. -/
  | group (name : String)
  /-- A nested group is about to be looked at. -/
  | nestedGroup (name : String)
  /-- An entity is looked at. -/
  | entity (id : String)
  /-- A certificate was rejected. -/
  | rejectedCertificate (entity subject reason : String)
  /-- A role descriptor was removed. -/
  | removedRole (entity : String) (role : Role)
  /-- No role of an entity is left. -/
  | noRoles (entity : String)
  /-- An entity was removed from its group. -/
  | removedEntity (id : String)
  /-- Neither entities nor groups of a group are left. -/
  | noMembers (group : String)
  /-- A group was removed from the group around it. -/
  | removedGroup (name : String)
  /-- Nothing of the document is left. -/
  | nothingLeft (role : Role) (store : String)
  /-- The document was discarded for a certificate that cannot be decoded. -/
  | discarded (cause : CertificateError)
  /-- The document was discarded because the validator broke down. -/
  | brokeDown
  deriving DecidableEq, Repr

/-- The report of an event. -/
def Event.record : Event → Log.Record
  | .group n => ⟨.trace, "Processing EntitiesDescriptor group", [("group", n)]⟩
  | .nestedGroup n => ⟨.trace, "Processing EntitiesDescriptor member", [("group", n)]⟩
  | .entity id => ⟨.trace, "Processing EntityDescriptor", [("entity_id", id)]⟩
  | .rejectedCertificate id s r =>
    ⟨.error, "Certificate chain validation failed for metadata entry",
      [("entity_id", id), ("subject", s), ("reason", r)]⟩
  | .removedRole id role =>
    ⟨.error, "RoleDescriptor failed certificate chain validation, removing from metadata provider",
      [("entity_id", id), ("role", role.elementName)]⟩
  | .noRoles id => ⟨.trace, "Role descriptor list is empty", [("entity_id", id)]⟩
  | .removedEntity id =>
    ⟨.warn, "EntityDescriptor failed certificate chain validation, removing from metadata provider",
      [("entity_id", id)]⟩
  | .noMembers n => ⟨.trace, "Entity and entities descriptor lists are empty", [("group", n)]⟩
  | .removedGroup n =>
    ⟨.warn,
      "EntitiesDescriptor failed certificate chain validation, removing from metadata provider",
      [("group", n)]⟩
  | .nothingLeft role store =>
    ⟨.error, "No metadata left after certificate chain validation",
      [("role", role.elementName), ("trust_store", store)]⟩
  | .discarded e =>
    ⟨.error, "Saw fatal error validating certificate chain, metadata will be filtered out",
      [("error", e.message)]⟩
  | .brokeDown =>
    ⟨.error, "Certificate chain validation panicked, metadata will be filtered out", []⟩

/-- Why filtering stopped. -/
inductive Interruption where
  /-- A certificate cannot be decoded. -/
  | undecodable (cause : CertificateError)
  /-- The validator broke down. -/
  | crash
  deriving DecidableEq, Repr

/-- A step of filtering: its result, what it reported, and the certificates that the validator
was asked about. -/
structure Step (α : Type) where
  /-- The result, or why filtering stopped. -/
  result : Except Interruption α
  /-- What was reported, in order. -/
  events : List Event
  /-- What the validator was asked about, in order. -/
  asked : List Certificate

namespace Step

/-- A step that does nothing. -/
def done {α : Type} (a : α) : Step α := ⟨.ok a, [], []⟩

/-- A step that stops the filtering. -/
def stop {α : Type} (i : Interruption) : Step α := ⟨.error i, [], []⟩

/-- A step that reports an event. -/
def report (e : Event) : Step Unit := ⟨.ok (), [e], []⟩

/-- One step after another; after an interruption there is none. -/
def andThen {α β : Type} (s : Step α) (next : α → Step β) : Step β :=
  match s.result with
  | .error i => ⟨.error i, s.events, s.asked⟩
  | .ok a =>
    let t := next a
    ⟨t.result, s.events ++ t.events, s.asked ++ t.asked⟩

instance : Monad Step where
  pure := done
  bind := andThen

end Step

/-- Ask about a certificate; a rejection is reported. -/
def checkCertificate (f : ChainFilter) (entity : String) (c : Certificate) : Step Bool :=
  match f.validator c f.store with
  | .accepted => ⟨.ok true, [], [c]⟩
  | .rejected reason => ⟨.ok false, [.rejectedCertificate entity c.subject reason], [c]⟩
  | .crashed => ⟨.error .crash, [], [c]⟩

/-- Ask about certificates up to the first that is rejected. -/
def checkCertificates (f : ChainFilter) (entity : String) : List Certificate → Step Bool
  | [] => .done true
  | c :: rest => do
    if ← f.checkCertificate entity c then f.checkCertificates entity rest else return false

/-- Check keys up to the first with a rejected certificate. All certificates of a key are
decoded before the first of them is asked about. -/
def checkKeys (f : ChainFilter) (entity : String) : List KeyDescriptor → Step Bool
  | [] => .done true
  | k :: rest =>
    match k.decode with
    | .error e => .stop (.undecodable e)
    | .ok certificates => do
      if ← f.checkCertificates entity certificates then f.checkKeys entity rest else return false

/-- Whether a role descriptor stays: it is of another role, or all its keys pass. -/
def keepsRole (f : ChainFilter) (entity : String) (r : RoleDescriptor) : Step Bool :=
  if r.role = f.role then f.checkKeys entity r.keys else .done true

/-- The role descriptors that stay. -/
def pruneRoles (f : ChainFilter) (entity : String) : List RoleDescriptor →
    Step (List RoleDescriptor)
  | [] => .done []
  | r :: rest => do
    if ← f.keepsRole entity r then
      return r :: (← f.pruneRoles entity rest)
    else
      Step.report (.removedRole entity r.role)
      f.pruneRoles entity rest

/-- What stays of an entity. -/
def pruneEntity (f : ChainFilter) (e : Entity) : Step (Option Entity) := do
  Step.report (.entity e.id)
  let roles ← f.pruneRoles e.id e.roles
  if roles.isEmpty then
    Step.report (.noRoles e.id)
    return none
  else return some ⟨e.id, roles⟩

/-- What stays of the entities of a group. -/
def pruneEntities (f : ChainFilter) : List Entity → Step (List Entity)
  | [] => .done []
  | e :: rest => do
    match ← f.pruneEntity e with
    | some kept => return kept :: (← f.pruneEntities rest)
    | none =>
      Step.report (.removedEntity e.id)
      f.pruneEntities rest

mutual

/-- What stays of a group. -/
def pruneGroup (f : ChainFilter) : Group → Step (Option Group)
  | .mk name id entities groups => do
    let shown := Group.displayName (.mk name id entities groups)
    Step.report (.group shown)
    let keptEntities ← f.pruneEntities entities
    let keptGroups ← f.pruneGroups groups
    if keptEntities.isEmpty && keptGroups.isEmpty then
      Step.report (.noMembers shown)
      return none
    else return some (.mk name id keptEntities keptGroups)

/-- What stays of the groups nested in a group. -/
def pruneGroups (f : ChainFilter) : List Group → Step (List Group)
  | [] => .done []
  | g :: rest => do
    Step.report (.nestedGroup g.displayName)
    match ← f.pruneGroup g with
    | some kept => return kept :: (← f.pruneGroups rest)
    | none =>
      Step.report (.removedGroup g.displayName)
      f.pruneGroups rest

end

/-- What stays of a document. -/
def prune (f : ChainFilter) : Metadata → Step (Option Metadata)
  | .entity e => do return (← f.pruneEntity e).map .entity
  | .group g => do return (← f.pruneGroup g).map .group

/-- What comes of a document: what may be used of it, the reports, and the certificates asked
about. -/
structure Outcome where
  /-- What is left; nothing if the document was discarded. -/
  metadata : Option Metadata
  /-- What was reported, in order. -/
  events : List Event
  /-- What validators were asked about, in order. -/
  asked : List Certificate

/-- Filter a document. -/
def run (f : ChainFilter) (m : Metadata) : Outcome :=
  let step := f.prune m
  match step.result with
  | .ok (some kept) => ⟨some kept, step.events, step.asked⟩
  | .ok none => ⟨none, step.events ++ [.nothingLeft f.role f.store.name], step.asked⟩
  | .error (.undecodable e) => ⟨none, step.events ++ [.discarded e], step.asked⟩
  | .error .crash => ⟨none, step.events ++ [.brokeDown], step.asked⟩

/-- Filter a document with one filter after another, until nothing is left. -/
def runAll : List ChainFilter → Metadata → Outcome
  | [], m => ⟨some m, [], []⟩
  | f :: rest, m =>
    let first := f.run m
    match first.metadata with
    | none => first
    | some kept =>
      let later := runAll rest kept
      ⟨later.metadata, first.events ++ later.events, first.asked ++ later.asked⟩

/-- The filters for some roles against one store. -/
def forRoles (roles : List Role) (validator : Validator) (store : TrustStore) :
    List ChainFilter :=
  roles.map fun role => ⟨role, validator, store⟩

end ChainFilter

end AnchoredMetadata
