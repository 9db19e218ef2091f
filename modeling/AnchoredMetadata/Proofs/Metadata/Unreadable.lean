import AnchoredMetadata.Proofs.Metadata.Survivors
import AnchoredMetadata.Proofs.Repository.Making

/-!
# Descriptors that cannot be read

Checking a descriptor ends at the first key that does not pass: with the whole
document discarded if the key cannot be decoded or the validator breaks down on
it, and with the descriptor removed if the validator rejects one of its
certificates. So a certificate that cannot be decoded discards the document
unless a key before it is rejected. It is never left in a descriptor that was
checked.
-/

namespace AnchoredMetadata

/-- A descriptor lists a certificate that cannot be decoded. -/
def RoleDescriptor.IsUnreadable (r : RoleDescriptor) : Prop :=
  ∃ k ∈ r.keys, ∃ text ∈ k.certificates, ∃ cause, Certificate.ofBase64 text = .error cause

namespace ChainFilter

/-! ## Where checking ends -/

section Reaches

variable {α : Type} {test : α → Bool} {p q : α → Prop} {xs : List α}

/-- What does not pass is of one of two kinds, and so is the first of which it holds. -/
theorem reaches_or_of_all_eq_false (h : ∀ x, test x = false → p x ∨ q x)
    (hxs : xs.all test = false) : Reaches test p xs ∨ Reaches test q xs := by
  induction xs with
  | nil => exact absurd hxs (by simp)
  | cons x rest ih =>
    rw [reaches_cons, reaches_cons]
    cases hx : test x with
    | false =>
      rcases h x hx with hp | hq
      · exact Or.inl (Or.inl hp)
      · exact Or.inr (Or.inl hq)
    | true =>
      rw [List.all_cons, hx, Bool.true_and] at hxs
      rcases ih hxs with hp | hq
      · exact Or.inl (Or.inr ⟨rfl, hp⟩)
      · exact Or.inr (Or.inr ⟨rfl, hq⟩)

end Reaches

variable {f : ChainFilter}

section Rejects

variable (f)

/-- The validator rejects one of some certificates, and accepts all before it. -/
def RejectsOn (certificates : List Certificate) : Prop :=
  Reaches f.accepts (fun c => ∃ reason, f.validator c f.store = .rejected reason) certificates

/-- A key can be decoded, and one of its certificates is rejected. -/
def RejectsAt (k : KeyDescriptor) : Prop :=
  ∃ certificates, k.decode = .ok certificates ∧ f.RejectsOn certificates

/-- Checking a descriptor reaches a key at which a certificate is rejected. -/
def RejectsIn (r : RoleDescriptor) : Prop := Reaches f.passes f.RejectsAt r.keys

end Rejects

/-- Where not all certificates are accepted, the validator breaks down or rejects one. -/
theorem breaksOn_or_rejectsOn {certificates : List Certificate}
    (h : certificates.all f.accepts = false) :
    f.BreaksOn certificates ∨ f.RejectsOn certificates := by
  refine reaches_or_of_all_eq_false ?_ h
  intro c hc
  unfold accepts at hc
  cases hverdict : f.validator c f.store with
  | accepted =>
    rw [hverdict] at hc
    exact absurd hc (by decide)
  | rejected reason => exact Or.inr ⟨reason, rfl⟩
  | crashed => exact Or.inl rfl

/-- A key that does not pass discards the document or is rejected. -/
theorem failsAt_or_rejectsAt {k : KeyDescriptor} (h : f.passes k = false) :
    f.FailsAt k ∨ f.RejectsAt k := by
  rcases listOfBase64_cases (f := f) k.certificates with
    ⟨cause, _, text, htext, hbad⟩ | ⟨certificates, hdecode, _, hall⟩
  · exact Or.inl (Or.inl ⟨text, htext, cause, hbad⟩)
  · rw [passes, hall] at h
    rcases breaksOn_or_rejectsOn h with hbreaks | hrejects
    · exact Or.inl (Or.inr ⟨certificates, hdecode, hbreaks⟩)
    · exact Or.inr ⟨certificates, hdecode, hrejects⟩

/-- A descriptor that does not survive discards the document or is rejected. -/
theorem failsIn_or_rejectsIn {r : RoleDescriptor} (h : f.survivesRole r = false) :
    f.FailsIn r ∨ f.RejectsIn r := by
  simp only [survivesRole, Bool.or_eq_false_iff, decide_eq_false_iff_not, ne_eq,
    Decidable.not_not] at h
  obtain ⟨hrole, hkeys⟩ := h
  rcases reaches_or_of_all_eq_false (fun k => failsAt_or_rejectsAt) hkeys with hfails | hrejects
  · exact Or.inl ⟨hrole, hfails⟩
  · exact Or.inr hrejects

/-- A descriptor that is checked and cannot be read does not survive. -/
theorem survivesRole_eq_false_of_isUnreadable {r : RoleDescriptor} (hrole : r.role = f.role)
    (h : r.IsUnreadable) : f.survivesRole r = false := by
  obtain ⟨k, hk, text, htext, cause, hbad⟩ := h
  rw [← Bool.not_eq_true, survivesRole_iff hrole]
  intro hall
  obtain ⟨c, hc, _⟩ := hall k hk text htext
  rw [hbad] at hc
  exact absurd hc nofun

/-! ## What becomes of the document -/

/-- If a descriptor that a filter checks lists a certificate that cannot be decoded, nothing is
left of the document, unless checking the descriptor ends at a key before, one of whose
certificates is rejected. Whatever is left, no descriptor in it that was checked lists such a
certificate. -/
theorem run_of_isUnreadable (f : ChainFilter) (m : Metadata) :
    (∀ r ∈ m.roles, r.role = f.role → r.IsUnreadable → ¬ f.RejectsIn r →
      (f.run m).metadata = none) ∧
    ∀ kept, (f.run m).metadata = some kept →
      ∀ r ∈ kept.roles, r.role = f.role → ¬ r.IsUnreadable := by
  constructor
  · intro r hr hrole hunreadable hnot
    have hdies := survivesRole_eq_false_of_isUnreadable hrole hunreadable
    have hfails := (failsIn_or_rejectsIn hdies).resolve_right hnot
    rw [Option.eq_none_iff_forall_ne_some]
    intro kept hkept
    exact (metadata_run_eq_some_iff.mp hkept).1 r hr hfails
  · intro kept hkept r hr hrole hunreadable
    obtain ⟨_, _, rfl⟩ := metadata_run_eq_some_iff.mp hkept
    rw [Metadata.roles_restrict] at hr
    have hdies := survivesRole_eq_false_of_isUnreadable hrole hunreadable
    rw [(List.mem_filter.mp hr).2] at hdies
    exact absurd hdies (by decide)

/-- A filter for providers whose validator rejects every certificate. -/
def rejecting : ChainFilter :=
  ⟨.identityProvider, fun _ _ => .rejected "untrusted", .empty "federation"⟩

/-- A key whose certificate can be decoded. -/
def readableKey : KeyDescriptor := ⟨.signing, Repository.sampleAnchor.chain⟩

/-- A key whose certificate cannot be decoded. -/
def brokenKey : KeyDescriptor := ⟨.signing, ["AAAA"]⟩

theorem ofBase64_broken : Certificate.ofBase64 "AAAA" = .error .unreadable := by rfl

/-- A certificate that cannot be decoded discards the document if its key comes first. -/
theorem run_unreadable_first :
    (rejecting.run (sampleHub [brokenKey, readableKey])).metadata = none := by
  have hnot : ¬ rejecting.RejectsIn ⟨.identityProvider, [brokenKey, readableKey]⟩ := by
    rw [RejectsIn, reaches_cons]
    rintro (⟨certificates, hdecode, _⟩ | ⟨hpasses, _⟩)
    · exact absurd hdecode nofun
    · obtain ⟨c, hc, _⟩ := passes_iff.mp hpasses "AAAA" List.mem_cons_self
      rw [ofBase64_broken] at hc
      exact absurd hc nofun
  exact (run_of_isUnreadable rejecting _).1 _ List.mem_cons_self rfl
    ⟨brokenKey, List.mem_cons_self, "AAAA", List.mem_cons_self, _, ofBase64_broken⟩ hnot

/-- It is not so that every document with such a certificate is discarded: the service is left
when another key comes first and is rejected. -/
theorem not_discarded_wherever_unreadable :
    ¬ ∀ (f : ChainFilter) (m : Metadata),
      (∃ r ∈ m.roles, r.role = f.role ∧ r.IsUnreadable) → (f.run m).metadata = none := by
  intro h
  have hleft : (rejecting.run (sampleHub [readableKey, brokenKey])).metadata.isSome = true := by
    decide +kernel
  rw [h rejecting (sampleHub [readableKey, brokenKey])] at hleft
  · exact absurd hleft nofun
  · exact ⟨_, List.mem_cons_self, rfl, brokenKey, List.mem_cons_of_mem _ List.mem_cons_self, "AAAA",
      List.mem_cons_self, _, ofBase64_broken⟩

end ChainFilter

end AnchoredMetadata
