import AnchoredMetadata.Proofs.Metadata.SigningKeys
import AnchoredMetadata.Proofs.Repository.Making

/-!
# Which entity decides about trust

Looking up an identifier finds the first entity that has it, and only the keys
which this one publishes are trusted. A key of a later entity with the same
identifier is not, though the identifier is listed for the later one's roles.
Where all entities with an identifier are the same, every published key is trusted.
-/

namespace AnchoredMetadata

/-- An entity publishes a key for signatures in a role. -/
def Entity.Publishes (e : Entity) (role : Role) (key : List UInt8) : Prop :=
  ∃ d ∈ e.roles, d.role = role ∧ d.Publishes key

/-- The entity that is found has the identifier, and no entity before it has. -/
theorem Metadata.find?_eq_some_iff {m : Metadata} {e : Entity} {id : String} :
    m.find? id = some e ↔ e.id = id ∧
      ∃ before after, m.entities = before ++ e :: after ∧ ∀ x ∈ before, x.id ≠ id := by
  rw [find?, List.find?_eq_some_iff_append]
  simp only [decide_eq_true_eq, Bool.not_eq_true', decide_eq_false_iff_not, ne_eq]

/-- Some entity of a document publishes a key for a purpose. -/
def Metadata.Publishes (m : Metadata) (p : Purpose) (key : List UInt8) : Prop :=
  ∃ e ∈ m.entities, e.id = p.entityId ∧ e.Publishes p.role key

/-- An entity that publishes a key in a role plays the role. -/
theorem Entity.Publishes.hasRole {e : Entity} {role : Role} {key : List UInt8}
    (h : e.Publishes role key) : e.hasRole role = true := by
  obtain ⟨d, hd, hrole, _⟩ := h
  exact List.any_eq_true.mpr ⟨d, hd, decide_eq_true hrole⟩

/-! ## Documents without what cannot be decoded -/

/-- The key with the certificates that can be decoded. -/
def KeyDescriptor.legible (k : KeyDescriptor) : KeyDescriptor :=
  ⟨k.keyUse, k.certificates.filter fun text => (Certificate.ofBase64 text).isOk⟩

/-- The descriptor with the certificates that can be decoded. -/
def RoleDescriptor.legible (d : RoleDescriptor) : RoleDescriptor :=
  ⟨d.role, d.keys.map KeyDescriptor.legible⟩

/-- The entity with the certificates that can be decoded. -/
def Entity.legible (e : Entity) : Entity := ⟨e.id, e.roles.map RoleDescriptor.legible⟩

namespace Group

mutual

/-- The group with the certificates that can be decoded. -/
def legible : Group → Group
  | .mk name id entities groups => .mk name id (entities.map Entity.legible) (legibleAll groups)

/-- The groups with the certificates that can be decoded. -/
def legibleAll : List Group → List Group
  | [] => []
  | g :: rest => legible g :: legibleAll rest

end

mutual

theorem allEntities_legible : (g : Group) →
    g.legible.allEntities = g.allEntities.map Entity.legible
  | .mk name id entities groups => by
    rw [legible, allEntities, allEntities, List.map_append, allEntitiesOf_legibleAll groups]

theorem allEntitiesOf_legibleAll : (groups : List Group) →
    allEntitiesOf (legibleAll groups) = (allEntitiesOf groups).map Entity.legible
  | [] => rfl
  | g :: rest => by
    rw [legibleAll, allEntitiesOf, allEntitiesOf, List.map_append, allEntities_legible g,
      allEntitiesOf_legibleAll rest]

end

end Group

/-- The document with the certificates that can be decoded. -/
def Metadata.legible : Metadata → Metadata
  | .entity e => .entity e.legible
  | .group g => .group g.legible

theorem Metadata.entities_legible (m : Metadata) :
    m.legible.entities = m.entities.map Entity.legible := by
  cases m with
  | entity e => rfl
  | group g => exact g.allEntities_legible

/-- Without the others, the certificates that can be decoded publish the same keys. -/
theorem RoleDescriptor.publishes_legible {d : RoleDescriptor} {key : List UInt8} :
    d.legible.Publishes key ↔ d.Publishes key := by
  constructor
  · rintro ⟨_, hlegible, huse, text, htext, c, hc, hkey⟩
    obtain ⟨k, hk, rfl⟩ := List.mem_map.mp hlegible
    exact ⟨k, hk, huse, text, (List.mem_filter.mp htext).1, c, hc, hkey⟩
  · rintro ⟨k, hk, huse, text, htext, c, hc, hkey⟩
    refine ⟨k.legible, List.mem_map_of_mem hk, huse, text, List.mem_filter.mpr ⟨htext, ?_⟩, c, hc,
      hkey⟩
    rw [hc]
    rfl

theorem Entity.publishes_legible {e : Entity} {role : Role} {key : List UInt8} :
    e.legible.Publishes role key ↔ e.Publishes role key := by
  constructor
  · rintro ⟨_, hlegible, hrole, hpublishes⟩
    obtain ⟨d, hd, rfl⟩ := List.mem_map.mp hlegible
    exact ⟨d, hd, hrole, RoleDescriptor.publishes_legible.mp hpublishes⟩
  · rintro ⟨d, hd, hrole, hpublishes⟩
    exact ⟨d.legible, List.mem_map_of_mem hd, hrole,
      RoleDescriptor.publishes_legible.mpr hpublishes⟩

/-- The same entity is found with the certificates that can be decoded. -/
theorem Metadata.find?_legible (m : Metadata) (id : String) :
    m.legible.find? id = (m.find? id).map Entity.legible := by
  rw [find?, entities_legible, List.find?_map]
  rfl

namespace SigningTrust

variable {m : Metadata} {credential : Certificate} {p : Purpose}

/-- A credential is trusted when the entity that is found publishes its key. -/
theorem isTrusted_some_iff : isTrusted (some m) credential p = true ↔
    ∃ e, m.find? p.entityId = some e ∧ e.Publishes p.role credential.publicKey := by
  rw [isTrusted_iff]
  constructor
  · rintro ⟨tree, e, hm, hfind, hpublishes⟩
    obtain rfl := Option.some.inj hm
    exact ⟨e, hfind, hpublishes⟩
  · rintro ⟨e, hfind, hpublishes⟩
    exact ⟨m, e, rfl, hfind, hpublishes⟩

/-- What is found is in the document. -/
theorem publishes_of_isTrusted (h : isTrusted (some m) credential p = true) :
    m.Publishes p credential.publicKey := by
  obtain ⟨e, hfind, hpublishes⟩ := isTrusted_some_iff.mp h
  exact ⟨e, List.mem_of_find?_eq_some hfind, (Metadata.find?_eq_some_iff.mp hfind).1, hpublishes⟩

/-- Where all entities with the identifier are the same, any of them is found. -/
theorem isTrusted_of_publishes
    (hsame : ∀ x ∈ m.entities, ∀ y ∈ m.entities, x.id = p.entityId → y.id = p.entityId → x = y)
    (h : m.Publishes p credential.publicKey) : isTrusted (some m) credential p = true := by
  obtain ⟨e, he, hid, hpublishes⟩ := h
  obtain ⟨first, hfind⟩ : ∃ first, m.find? p.entityId = some first := by
    rw [← Option.isSome_iff_exists, Metadata.find?, List.find?_isSome]
    exact ⟨e, he, decide_eq_true hid⟩
  have hfirst : first ∈ m.entities := List.mem_of_find?_eq_some hfind
  obtain rfl := hsame first hfirst e he (Metadata.find?_eq_some_iff.mp hfind).1 hid
  exact isTrusted_some_iff.mpr ⟨first, hfind, hpublishes⟩

/-- Certificates that cannot be decoded make no difference. -/
theorem isTrusted_legible (m : Metadata) (credential : Certificate) (p : Purpose) :
    isTrusted (some m.legible) credential p = isTrusted (some m) credential p := by
  rw [Bool.eq_iff_iff, isTrusted_some_iff, isTrusted_some_iff, Metadata.find?_legible]
  cases m.find? p.entityId with
  | none => simp
  | some e => simp [Entity.publishes_legible]

/-- A credential is trusted exactly when its key is published by the first entity with the
identifier, whatever certificates cannot be decoded. The identifier is then listed for the role.
If all entities with the identifier are the same, a credential is trusted exactly when some entity
with the identifier publishes its key. -/
theorem isTrusted_first_entity (m : Metadata) (credential : Certificate) (p : Purpose) :
    (isTrusted (some m) credential p = true ↔
      ∃ before e after, m.entities = before ++ e :: after ∧ (∀ x ∈ before, x.id ≠ p.entityId) ∧
        e.id = p.entityId ∧ e.Publishes p.role credential.publicKey) ∧
    isTrusted (some m.legible) credential p = isTrusted (some m) credential p ∧
    (isTrusted (some m) credential p = true →
      m.Publishes p credential.publicKey ∧ p.entityId ∈ m.idsWithRole p.role) ∧
    ((∀ x ∈ m.entities, ∀ y ∈ m.entities, x.id = p.entityId → y.id = p.entityId → x = y) →
      (isTrusted (some m) credential p = true ↔ m.Publishes p credential.publicKey)) := by
  refine ⟨?_, isTrusted_legible m credential p, ?_, ?_⟩
  · rw [isTrusted_some_iff]
    constructor
    · rintro ⟨e, hfind, hpublishes⟩
      obtain ⟨hid, before, after, heq, hbefore⟩ := Metadata.find?_eq_some_iff.mp hfind
      exact ⟨before, e, after, heq, hbefore, hid, hpublishes⟩
    · rintro ⟨before, e, after, heq, hbefore, hid, hpublishes⟩
      exact ⟨e, Metadata.find?_eq_some_iff.mpr ⟨hid, before, after, heq, hbefore⟩, hpublishes⟩
  · intro htrusted
    obtain ⟨e, he, hid, hpublishes⟩ := publishes_of_isTrusted htrusted
    refine ⟨⟨e, he, hid, hpublishes⟩, ?_⟩
    rw [← hid]
    exact List.mem_map_of_mem (List.mem_filter.mpr ⟨he, hpublishes.hasRole⟩)
  · intro hsame
    exact ⟨publishes_of_isTrusted, isTrusted_of_publishes hsame⟩

/-- A document with two entities, one with some keys and, in a nested group, one with others. -/
def sampleFleet (first second : Entity) : Metadata :=
  .group (.mk (some "fleet") none [first] [.mk none none [second] []])

/-- A provider with some certificates for signatures. -/
def sampleProvider (id : String) (certificates : List String) : Entity :=
  ⟨id, [⟨.identityProvider, [⟨.signing, certificates⟩]⟩]⟩

/-- The certificate of the sample anchor. -/
def sampleText : String := Repository.sampleAnchor.chain.headD ""

theorem exists_ofBase64_sampleText : ∃ c, Certificate.ofBase64 sampleText = .ok c := by
  have hread : (Certificate.ofBase64 sampleText).toOption.isSome = true := by decide +kernel
  cases h : Certificate.ofBase64 sampleText with
  | ok c => exact ⟨c, rfl⟩
  | error cause =>
    rw [h] at hread
    cases hread

/-- A key in a nested group, beside a certificate that cannot be decoded, is trusted if no other
entity has the identifier. -/
theorem trusted_beside_undecodable :
    ∃ c, Certificate.ofBase64 sampleText = .ok c ∧
      isTrusted (some (sampleFleet (sampleProvider "hub" []) (sampleProvider "shore"
        ["AAAA", sampleText]))) c ⟨"shore", .identityProvider⟩ = true := by
  obtain ⟨c, hc⟩ := exists_ofBase64_sampleText
  refine ⟨c, hc, ((isTrusted_first_entity _ c ⟨"shore", .identityProvider⟩).2.2.2 ?_).mpr ?_⟩
  · decide +kernel
  · exact ⟨sampleProvider "shore" ["AAAA", sampleText], by decide, rfl, _, List.mem_cons_self, rfl,
      _, List.mem_cons_self, Or.inl rfl, sampleText, by decide, c, hc, rfl⟩

/-- It is not so that a credential is trusted wherever its key is published: where two entities
have the identifier, the keys of the second one are passed over. -/
theorem not_trusted_wherever_published :
    ¬ ∀ (m : Metadata) (credential : Certificate) (p : Purpose),
      m.Publishes p credential.publicKey → isTrusted (some m) credential p = true := by
  intro h
  obtain ⟨c, hc⟩ := exists_ofBase64_sampleText
  have htrusted := h (sampleFleet (sampleProvider "shore" []) (sampleProvider "shore" [sampleText]))
    c ⟨"shore", .identityProvider⟩ ⟨sampleProvider "shore" [sampleText], by decide, rfl, _,
      List.mem_cons_self, rfl, _, List.mem_cons_self, Or.inl rfl, sampleText, by decide, c, hc, rfl⟩
  have hfalse : isTrusted (some (sampleFleet (sampleProvider "shore" [])
      (sampleProvider "shore" [sampleText]))) c ⟨"shore", .identityProvider⟩ = false := rfl
  rw [hfalse] at htrusted
  cases htrusted

end SigningTrust

end AnchoredMetadata
