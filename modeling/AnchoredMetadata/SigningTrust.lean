import AnchoredMetadata.Log.Record
import AnchoredMetadata.Metadata.Tree

/-!
# Trust in signing credentials

A credential is trusted for an entity in a role when its public key is among
those that the entity's metadata publishes for signatures in that role. Only
the first entity with the identifier is looked at. Certificates that cannot be
decoded are skipped.
-/

namespace AnchoredMetadata

/-- What a credential is trusted for. -/
structure Purpose where
  /-- The entity that signs. -/
  entityId : String
  /-- The role in which it signs. -/
  role : Role
  deriving DecidableEq, Repr

namespace SigningTrust

/-- What is reported about a credential. -/
inductive Event where
  /-- Nothing is published for an entity. -/
  | unpublished (entity : String)
  /-- A published certificate was skipped. -/
  | skipped (entity : String) (cause : CertificateError)
  /-- A credential was judged. -/
  | judged (purpose : Purpose) (subject : String) (trusted : Bool)
  deriving DecidableEq, Repr

/-- The report of an event. -/
def Event.record : Event → Log.Record
  | .unpublished id => ⟨.debug, "No metadata published for entity", [("entity_id", id)]⟩
  | .skipped id e =>
    ⟨.warn, "Skipping unreadable published key", [("entity_id", id), ("error", e.message)]⟩
  | .judged p s trusted =>
    ⟨.debug, "Evaluated signing credential",
      [("entity_id", p.entityId), ("role", p.role.elementName), ("subject", s),
        ("trusted", toString trusted)]⟩

/-- The encoded certificates that an entity publishes for signatures in a role. -/
def publishedTexts (e : Entity) (role : Role) : List String :=
  (e.rolesOf role).flatMap fun r =>
    (r.keys.filter KeyDescriptor.isSigning).flatMap KeyDescriptor.certificates

/-- The decoded ones among some encoded certificates. -/
def decodable (texts : List String) : List Certificate :=
  texts.filterMap fun text => (Certificate.ofBase64 text).toOption

/-- The certificates published for a purpose. -/
def publishedKeys (m : Option Metadata) (p : Purpose) : List Certificate :=
  match m.bind fun m => m.find? p.entityId with
  | some e => decodable (publishedTexts e p.role)
  | none => []

/-- Whether a credential is trusted for a purpose. -/
def isTrusted (m : Option Metadata) (credential : Certificate) (p : Purpose) : Bool :=
  (publishedKeys m p).any fun c => c.publicKey == credential.publicKey

/-- What is reported while published certificates are decoded. -/
def skippedEvents (id : String) (texts : List String) : List Event :=
  texts.filterMap fun text =>
    match Certificate.ofBase64 text with
    | .ok _ => none
    | .error e => some (.skipped id e)

/-- What is reported when a credential is judged. -/
def events (m : Option Metadata) (credential : Certificate) (p : Purpose) : List Event :=
  let found := match m.bind fun m => m.find? p.entityId with
    | some e => skippedEvents p.entityId (publishedTexts e p.role)
    | none => [.unpublished p.entityId]
  found ++ [.judged p credential.subject (isTrusted m credential p)]

/-- Without metadata nothing is trusted. -/
@[simp] theorem isTrusted_none (credential : Certificate) (p : Purpose) :
    isTrusted none credential p = false := rfl

end SigningTrust

end AnchoredMetadata
