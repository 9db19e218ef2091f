import AnchoredMetadata.Certificate

/-!
# The metadata tree

Groups hold entities and nested groups, entities hold role descriptors, and
role descriptors hold key descriptors with encoded certificates. Looking up
an entity finds the first one with its identifier, depth first.
-/

namespace AnchoredMetadata

/-- What an entity can act as. -/
inductive Role where
  /-- Vouches for identities. -/
  | identityProvider
  /-- Relies on identities. -/
  | serviceProvider
  /-- Answers questions about attributes. -/
  | attributeAuthority
  /-- Answers questions about authentication. -/
  | authenticationAuthority
  /-- Decides on access. -/
  | policyDecisionPoint
  deriving DecidableEq, Repr

/-- The element name of a role. -/
def Role.elementName : Role → String
  | .identityProvider => "IDPSSODescriptor"
  | .serviceProvider => "SPSSODescriptor"
  | .attributeAuthority => "AttributeAuthorityDescriptor"
  | .authenticationAuthority => "AuthnAuthorityDescriptor"
  | .policyDecisionPoint => "PDPDescriptor"

/-- Every role. -/
def Role.all : List Role :=
  [.identityProvider, .serviceProvider, .attributeAuthority, .authenticationAuthority,
    .policyDecisionPoint]

/-- What a key is used for. -/
inductive KeyUse where
  /-- Signing. -/
  | signing
  /-- Encryption. -/
  | encryption
  /-- Either. -/
  | unspecified
  deriving DecidableEq, Repr

/-- The word for a use. -/
def KeyUse.word : KeyUse → String
  | .signing => "signing"
  | .encryption => "encryption"
  | .unspecified => "unspecified"

/-- A key, given by certificates in base64. -/
structure KeyDescriptor where
  /-- What the key is used for. -/
  keyUse : KeyUse
  /-- The certificates that hold it. -/
  certificates : List String
  deriving DecidableEq, Repr

/-- The decoded certificates of a key, or why the first bad one cannot be decoded. -/
def KeyDescriptor.decode (k : KeyDescriptor) : Except CertificateError (List Certificate) :=
  Certificate.listOfBase64 k.certificates

/-- Whether the key may be used for signatures. -/
def KeyDescriptor.isSigning (k : KeyDescriptor) : Bool := k.keyUse ≠ .encryption

/-- A role that an entity plays, with its keys. -/
structure RoleDescriptor where
  /-- The role. -/
  role : Role
  /-- Its keys. -/
  keys : List KeyDescriptor
  deriving DecidableEq, Repr

/-- A participant. -/
structure Entity where
  /-- Its identifier. -/
  id : String
  /-- The roles it plays. -/
  roles : List RoleDescriptor
  deriving DecidableEq, Repr

/-- The descriptors of a role. -/
def Entity.rolesOf (e : Entity) (role : Role) : List RoleDescriptor :=
  e.roles.filter fun r => r.role = role

/-- Whether the entity plays a role. -/
def Entity.hasRole (e : Entity) (role : Role) : Bool := e.roles.any fun r => r.role = role

/-- A group of entities and nested groups. -/
inductive Group where
  /-- The group with a name, an identifier, its own entities and its nested groups. -/
  | mk (name id : Option String) (entities : List Entity) (groups : List Group)
  deriving Repr

namespace Group

/-- The name of the group. -/
def name : Group → Option String
  | .mk name _ _ _ => name

/-- The identifier of the group. -/
def id : Group → Option String
  | .mk _ id _ _ => id

/-- The entities that the group itself holds. -/
def entities : Group → List Entity
  | .mk _ _ entities _ => entities

/-- The nested groups. -/
def groups : Group → List Group
  | .mk _ _ _ groups => groups

/-- The name shown in reports: the name, else the identifier, else a fixed text. -/
def displayName (g : Group) : String := (g.name.or g.id).getD "(unnamed)"

/-- Whether the group holds neither entities nor groups. -/
def isEmpty (g : Group) : Bool := g.entities.isEmpty && g.groups.isEmpty

mutual

/-- Every entity of a group: its own before those of its nested groups. -/
def allEntities : Group → List Entity
  | .mk _ _ entities groups => entities ++ allEntitiesOf groups

/-- Every entity of some groups. -/
def allEntitiesOf : List Group → List Entity
  | [] => []
  | g :: rest => allEntities g ++ allEntitiesOf rest

end

mutual

/-- A group and every group nested in it, outer ones first. -/
def allGroups : Group → List Group
  | .mk name id entities groups => .mk name id entities groups :: allGroupsOf groups

/-- Every group among some groups and nested in them. -/
def allGroupsOf : List Group → List Group
  | [] => []
  | g :: rest => allGroups g ++ allGroupsOf rest

end

/-- Every entity of some groups, group by group. -/
theorem allEntitiesOf_eq_flatMap (groups : List Group) :
    allEntitiesOf groups = groups.flatMap allEntities := by
  induction groups with
  | nil => simp [allEntitiesOf]
  | cons g rest ih => simp [allEntitiesOf, ih]

/-- A group's own entities come first. -/
theorem allEntities_eq (g : Group) :
    g.allEntities = g.entities ++ g.groups.flatMap allEntities := by
  cases g with
  | mk name id own nested =>
    simp [allEntities, Group.entities, Group.groups, allEntitiesOf_eq_flatMap]

end Group

/-- A metadata document: one entity or one group. -/
inductive Metadata where
  /-- A single entity. -/
  | entity (e : Entity)
  /-- A group. -/
  | group (g : Group)
  deriving Repr

namespace Metadata

/-- Every entity, depth first. -/
def entities : Metadata → List Entity
  | .entity e => [e]
  | .group g => g.allEntities

/-- The first entity with an identifier. -/
def find? (m : Metadata) (id : String) : Option Entity := m.entities.find? fun e => e.id = id

/-- The identifiers of the entities that play a role. -/
def idsWithRole (m : Metadata) (role : Role) : List String :=
  (m.entities.filter fun e => e.hasRole role).map Entity.id

end Metadata

end AnchoredMetadata
