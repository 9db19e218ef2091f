import AnchoredMetadata.SigningTrust

/-!
# Keys that are published for signatures

A credential is trusted for a purpose when the first entity with the identifier
has a descriptor of the role that publishes the credential's key. Certificates
that cannot be decoded publish nothing.
-/

namespace AnchoredMetadata

/-- A descriptor publishes a key for signatures: one of its key descriptors that is not for
encryption lists a certificate that can be decoded and holds the key. -/
def RoleDescriptor.Publishes (d : RoleDescriptor) (key : List UInt8) : Prop :=
  ∃ k ∈ d.keys, (k.keyUse = .signing ∨ k.keyUse = .unspecified) ∧
    ∃ text ∈ k.certificates, ∃ c, Certificate.ofBase64 text = .ok c ∧ c.publicKey = key

/-- A key descriptor counts for signatures unless it is for encryption. -/
theorem KeyDescriptor.isSigning_iff {k : KeyDescriptor} :
    k.isSigning = true ↔ k.keyUse = .signing ∨ k.keyUse = .unspecified := by
  unfold isSigning
  cases k.keyUse <;> decide

namespace SigningTrust

/-- Decoding keeps the certificates that can be decoded. -/
theorem mem_decodable {texts : List String} {c : Certificate} :
    c ∈ decodable texts ↔ ∃ text ∈ texts, Certificate.ofBase64 text = .ok c := by
  rw [decodable, List.mem_filterMap]
  refine exists_congr fun text => and_congr_right fun _ => ?_
  cases Certificate.ofBase64 text <;> simp [Except.toOption]

/-- The certificates published in a role are those of its descriptors' keys for signatures. -/
theorem mem_publishedTexts {e : Entity} {role : Role} {text : String} :
    text ∈ publishedTexts e role ↔ ∃ d ∈ e.roles, d.role = role ∧
      ∃ k ∈ d.keys, (k.keyUse = .signing ∨ k.keyUse = .unspecified) ∧ text ∈ k.certificates := by
  simp only [publishedTexts, Entity.rolesOf, List.mem_flatMap, List.mem_filter,
    KeyDescriptor.isSigning_iff, decide_eq_true_eq, and_assoc]

/-- A credential is trusted when the first entity with the identifier publishes its key in the
role. -/
theorem isTrusted_iff {m : Option Metadata} {credential : Certificate} {p : Purpose} :
    isTrusted m credential p = true ↔
      ∃ tree e, m = some tree ∧ tree.find? p.entityId = some e ∧
        ∃ d ∈ e.roles, d.role = p.role ∧ d.Publishes credential.publicKey := by
  have hkeys : isTrusted m credential p = true ↔
      ∃ c ∈ publishedKeys m p, c.publicKey = credential.publicKey := by
    rw [isTrusted, List.any_eq_true]
    simp only [beq_iff_eq]
  rw [hkeys]
  cases m with
  | none => simp [publishedKeys]
  | some tree =>
    cases hfind : tree.find? p.entityId with
    | none => simp [publishedKeys, hfind]
    | some e =>
      simp only [publishedKeys, Option.bind_some, hfind, mem_decodable, mem_publishedTexts,
        RoleDescriptor.Publishes, Option.some.injEq]
      constructor
      · rintro ⟨c, ⟨text, ⟨d, hd, hrole, k, hk, huse, htext⟩, hc⟩, hkey⟩
        exact ⟨tree, e, rfl, hfind, d, hd, hrole, k, hk, huse, text, htext, c, hc, hkey⟩
      · rintro ⟨_, _, rfl, hfound, d, hd, hrole, k, hk, huse, text, htext, c, hc, hkey⟩
        obtain rfl := Option.some.inj (hfind.symm.trans hfound)
        exact ⟨c, ⟨text, ⟨d, hd, hrole, k, hk, huse, htext⟩, hc⟩, hkey⟩

end SigningTrust

end AnchoredMetadata
