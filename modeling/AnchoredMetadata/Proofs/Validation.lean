import AnchoredMetadata.Proofs.Except
import AnchoredMetadata.Proofs.Repository.Making
import AnchoredMetadata.Proofs.TrustStore
import AnchoredMetadata.Validation
import Mathlib.Data.List.Basic

/-!
# The verdict of the default validator

Going through the entries of a store finds an issuer within its validity wherever it stands, and
else remembers the last issuer there is. So whether a certificate is accepted depends only on which
certificates the store holds, and a rejection names the first condition that fails.
-/

namespace AnchoredMetadata

open Time

/-- An instant lies in the validity of a certificate, ends included. -/
def Certificate.WithinValidity (c : Certificate) (t : Instant) : Prop :=
  c.notBefore ≤ t ∧ t ≤ c.notAfter

theorem Certificate.isValidAt_iff {c : Certificate} {t : Instant} :
    c.isValidAt t = true ↔ c.WithinValidity t := by
  rw [isValidAt, Validity.contains, Bool.and_eq_true, decide_eq_true_eq, decide_eq_true_eq]
  rfl

theorem TrustStore.contains_iff {store : TrustStore} {c : Certificate} :
    store.contains c = true ↔ ∃ entry ∈ store.certificates, entry.encoding = c.encoding := by
  rw [contains, List.contains_iff_exists_mem_beq]
  refine exists_congr fun entry => and_congr_right fun _ => ?_
  rw [Certificate.beq_def, beq_iff_eq, eq_comm]

/-- A store holds no certificates when it has no entries. -/
theorem TrustStore.certificates_eq_nil_iff {store : TrustStore} :
    store.certificates = [] ↔ store.entries = [] := List.map_eq_nil_iff

/-- A certificate under a new alias is held after the others. -/
theorem TrustStore.certificates_insert {store : TrustStore} {label : String} {c : Certificate}
    (h : label ∉ store.aliases) :
    (store.insert label c).certificates = store.certificates ++ [c] := by
  rw [certificates, insert, insertEntry_of_not_mem h, List.map_append]
  rfl

namespace Validation

variable {moment : Instant} {c : Certificate} {store : TrustStore}

/-- An entry issued a certificate, and is an authority or issued itself. -/
structure IsIssuer (c entry : Certificate) : Prop where
  /-- It may issue certificates. -/
  permitted : entry.isAuthority = true ∨ entry.subject = entry.issuer
  /-- The certificate names it and is signed with its key. -/
  issued : c.isIssuedBy entry = true

/-- The issuers of a certificate among entries, in their order. -/
def issuers (c : Certificate) (entries : List Certificate) : List Certificate :=
  entries.filter fun entry => mayIssue entry && c.isIssuedBy entry

theorem mem_issuers_iff {entry : Certificate} {entries : List Certificate} :
    entry ∈ issuers c entries ↔ entry ∈ entries ∧ IsIssuer c entry := by
  rw [issuers, List.mem_filter, Bool.and_eq_true, mayIssue, Bool.or_eq_true,
    Certificate.isSelfIssued, beq_iff_eq]
  exact and_congr_right fun _ => ⟨fun h => ⟨h.1, h.2⟩, fun h => ⟨h.permitted, h.issued⟩⟩

/-- Going through entries ends with none when one of the issuers is within its validity, and else
as if only the last issuer had been seen. -/
theorem rejectionBy?_eq (moment : Instant) (c : Certificate) (expired : Option Certificate)
    (entries : List Certificate) :
    rejectionBy? moment c expired entries =
      if (issuers c entries).any fun i => i.isValidAt moment then none
      else rejectionBy? moment c ((issuers c entries).getLast?.or expired) [] := by
  induction entries generalizing expired with
  | nil => rfl
  | cons entry rest ih =>
    rw [rejectionBy?, ← Bool.not_and]
    cases hissuer : mayIssue entry && c.isIssuedBy entry with
    | false =>
      have hrest : issuers c (entry :: rest) = issuers c rest :=
        List.filter_cons_of_neg (by rw [hissuer]; exact Bool.false_ne_true)
      rw [Bool.not_false, if_pos rfl, hrest, ih]
    | true =>
      have hfirst : issuers c (entry :: rest) = entry :: issuers c rest :=
        List.filter_cons_of_pos hissuer
      rw [Bool.not_true, if_neg Bool.false_ne_true, hfirst, List.any_cons]
      cases hvalid : entry.isValidAt moment with
      | true => rw [if_pos rfl, Bool.true_or, if_pos rfl]
      | false =>
        rw [if_neg Bool.false_ne_true, Bool.false_or, ih, List.getLast?_cons]
        cases (issuers c rest).getLast? <;> rfl

/-! ## Acceptance -/

/-- What a certificate needs to be accepted at an instant. -/
structure Accepts (moment : Instant) (c : Certificate) (store : TrustStore) : Prop where
  /-- The instant lies in its validity. -/
  timely : c.WithinValidity moment
  /-- The store holds something. -/
  stocked : store.entries ≠ []
  /-- The store holds the certificate itself, or an issuer within its own validity. -/
  backed : (∃ entry ∈ store.certificates, entry.encoding = c.encoding) ∨
    ∃ entry ∈ store.certificates, IsIssuer c entry ∧ entry.WithinValidity moment

theorem any_issuers_iff {entries : List Certificate} :
    ((issuers c entries).any fun i => i.isValidAt moment) = true ↔
      ∃ entry ∈ entries, IsIssuer c entry ∧ entry.WithinValidity moment := by
  simp only [List.any_eq_true, mem_issuers_iff, Certificate.isValidAt_iff, and_assoc]

theorem rejection?_eq_none_iff : rejection? moment c store = none ↔ Accepts moment c store := by
  unfold rejection?
  constructor
  · intro h
    split at h
    · exact absurd h nofun
    · next htimely =>
      rw [Bool.not_eq_true', Bool.not_eq_false, Certificate.isValidAt_iff] at htimely
      split at h
      · exact absurd h nofun
      · next hstocked =>
        rw [TrustStore.isEmpty, List.isEmpty_iff] at hstocked
        refine ⟨htimely, hstocked, ?_⟩
        split at h
        · next hheld => exact Or.inl (TrustStore.contains_iff.mp hheld)
        · rw [rejectionBy?_eq] at h
          split at h
          · next hissuer => exact Or.inr (any_issuers_iff.mp hissuer)
          · unfold rejectionBy? at h
            split at h <;> exact absurd h nofun
  · rintro ⟨htimely, hstocked, hbacked⟩
    rw [if_neg (by rw [Certificate.isValidAt_iff.mpr htimely]; exact Bool.false_ne_true),
      if_neg (by rw [TrustStore.isEmpty, List.isEmpty_iff]; exact hstocked)]
    rcases hbacked with hheld | hissuer
    · rw [if_pos (TrustStore.contains_iff.mpr hheld)]
    · rw [rejectionBy?_eq, if_pos (any_issuers_iff.mpr hissuer), ite_self]

/-- Two stores that hold the same certificates back the same ones. -/
theorem Accepts.congr {other : TrustStore}
    (h : ∀ entry, entry ∈ store.certificates ↔ entry ∈ other.certificates) :
    Accepts moment c store ↔ Accepts moment c other := by
  have hstocked : store.entries ≠ [] ↔ other.entries ≠ [] := by
    rw [Ne, Ne, ← TrustStore.certificates_eq_nil_iff, ← TrustStore.certificates_eq_nil_iff,
      List.eq_nil_iff_forall_not_mem, List.eq_nil_iff_forall_not_mem]
    simp only [h]
  constructor
  · rintro ⟨htimely, hentries, hbacked⟩
    refine ⟨htimely, hstocked.mp hentries, ?_⟩
    simpa only [h] using hbacked
  · rintro ⟨htimely, hentries, hbacked⟩
    refine ⟨htimely, hstocked.mpr hentries, ?_⟩
    simpa only [h] using hbacked

/-- What more entries than those of a store hold back no less. -/
theorem Accepts.mono {other : TrustStore} (ha : Accepts moment c store)
    (h : ∀ entry ∈ store.certificates, entry ∈ other.certificates) : Accepts moment c other := by
  obtain ⟨htimely, hstocked, hbacked⟩ := ha
  refine ⟨htimely, ?_, ?_⟩
  · obtain ⟨e, he⟩ := List.exists_mem_of_ne_nil _
      (mt TrustStore.certificates_eq_nil_iff.mp hstocked)
    intro hnone
    rw [← TrustStore.certificates_eq_nil_iff] at hnone
    exact absurd (hnone ▸ h e he) List.not_mem_nil
  · exact hbacked.imp (fun ⟨e, he, hsame⟩ => ⟨e, h e he, hsame⟩)
      (fun ⟨e, he, hissuer⟩ => ⟨e, h e he, hissuer⟩)

/-! ## Rejection -/

/-- Why a certificate is rejected at an instant: the first condition that fails. -/
inductive Rejects (moment : Instant) (c : Certificate) (store : TrustStore) : Rejection → Prop where
  /-- The instant lies outside of its validity. -/
  | outsideValidity (h : ¬ c.WithinValidity moment) :
    Rejects moment c store (.outsideValidity c.subject c.notBefore c.notAfter)
  /-- The store holds nothing. -/
  | emptyStore (htimely : c.WithinValidity moment) (h : store.entries = []) :
    Rejects moment c store (.emptyStore store.name)
  /-- There are issuers, and all of them are outside of their validity. The last one is named. -/
  | issuerOutsideValidity {issuer : Certificate} (htimely : c.WithinValidity moment)
    (hheld : ∀ entry ∈ store.certificates, entry.encoding ≠ c.encoding)
    (hlast : (issuers c store.certificates).getLast? = some issuer)
    (h : ∀ entry ∈ store.certificates, IsIssuer c entry → ¬ entry.WithinValidity moment) :
    Rejects moment c store (.issuerOutsideValidity issuer.subject c.subject)
  /-- There is no issuer. -/
  | noIssuer (htimely : c.WithinValidity moment) (hstocked : store.entries ≠ [])
    (hheld : ∀ entry ∈ store.certificates, entry.encoding ≠ c.encoding)
    (h : ∀ entry ∈ store.certificates, ¬ IsIssuer c entry) :
    Rejects moment c store (.noIssuer c.subject c.issuer)

/-- Without an issuer within its validity the last issuer decides. -/
theorem rejectionBy?_of_untimely {entries : List Certificate}
    (h : ∀ entry ∈ entries, IsIssuer c entry → ¬ entry.WithinValidity moment) :
    rejectionBy? moment c none entries =
      rejectionBy? moment c (issuers c entries).getLast? [] := by
  rw [rejectionBy?_eq, if_neg, Option.or_none]
  rw [any_issuers_iff]
  rintro ⟨entry, hentry, hissuer, htimely⟩
  exact h entry hentry hissuer htimely

/-- A reason to reject is the one that is given. -/
theorem Rejects.rejection?_eq {r : Rejection} (h : Rejects moment c store r) :
    rejection? moment c store = some r := by
  have hinside (ht : c.WithinValidity moment) : ¬ (!c.isValidAt moment) = true := by
    rw [Certificate.isValidAt_iff.mpr ht]
    exact Bool.false_ne_true
  have hfilled (hs : store.entries ≠ []) : ¬ store.isEmpty = true := by
    rw [TrustStore.isEmpty, List.isEmpty_iff]
    exact hs
  have hapart (hh : ∀ entry ∈ store.certificates, entry.encoding ≠ c.encoding) :
      ¬ store.contains c = true := by
    rw [TrustStore.contains_iff]
    rintro ⟨entry, hentry, hsame⟩
    exact hh entry hentry hsame
  unfold rejection?
  cases h with
  | outsideValidity hout =>
    rw [if_pos]
    rw [Bool.not_eq_true', ← Bool.not_eq_true, Certificate.isValidAt_iff]
    exact hout
  | emptyStore htimely hempty =>
    rw [if_neg (hinside htimely), if_pos (by rw [TrustStore.isEmpty, hempty]; rfl)]
  | issuerOutsideValidity htimely hheld hlast huntimely =>
    have hstocked : store.entries ≠ [] := by
      intro hnone
      rw [TrustStore.certificates_eq_nil_iff.mpr hnone] at hlast
      exact absurd hlast nofun
    rw [if_neg (hinside htimely), if_neg (hfilled hstocked), if_neg (hapart hheld),
      rejectionBy?_of_untimely huntimely, hlast]
    rfl
  | noIssuer htimely hstocked hheld hnone =>
    have hissuers : issuers c store.certificates = [] := by
      rw [List.eq_nil_iff_forall_not_mem]
      intro entry hentry
      obtain ⟨hin, hissuer⟩ := mem_issuers_iff.mp hentry
      exact hnone entry hin hissuer
    rw [if_neg (hinside htimely), if_neg (hfilled hstocked), if_neg (hapart hheld),
      rejectionBy?_of_untimely fun entry hentry hissuer => absurd hissuer (hnone entry hentry),
      hissuers]
    rfl

/-- A certificate that is not accepted is rejected for a reason. -/
theorem exists_rejects (h : ¬ Accepts moment c store) : ∃ r, Rejects moment c store r := by
  by_cases htimely : c.WithinValidity moment
  case neg => exact ⟨_, .outsideValidity htimely⟩
  by_cases hstocked : store.entries = []
  · exact ⟨_, .emptyStore htimely hstocked⟩
  have hheld : ∀ entry ∈ store.certificates, entry.encoding ≠ c.encoding := by
    intro entry hentry hsame
    exact h ⟨htimely, hstocked, Or.inl ⟨entry, hentry, hsame⟩⟩
  have huntimely : ∀ entry ∈ store.certificates, IsIssuer c entry →
      ¬ entry.WithinValidity moment := by
    intro entry hentry hissuer hinside
    exact h ⟨htimely, hstocked, Or.inr ⟨entry, hentry, hissuer, hinside⟩⟩
  cases hlast : (issuers c store.certificates).getLast? with
  | some issuer => exact ⟨_, .issuerOutsideValidity htimely hheld hlast huntimely⟩
  | none =>
    refine ⟨_, .noIssuer htimely hstocked hheld ?_⟩
    intro entry hentry hissuer
    have hnone := List.getLast?_eq_none_iff.mp hlast
    exact absurd (mem_issuers_iff.mpr ⟨hentry, hissuer⟩) (hnone ▸ List.not_mem_nil)

theorem rejection?_eq_some_iff {r : Rejection} :
    rejection? moment c store = some r ↔ Rejects moment c store r := by
  refine ⟨fun h => ?_, Rejects.rejection?_eq⟩
  have hnot : ¬ Accepts moment c store := by
    rw [← rejection?_eq_none_iff, h]
    exact nofun
  obtain ⟨other, hother⟩ := exists_rejects hnot
  obtain rfl : r = other := Option.some.inj (h.symm.trans hother.rejection?_eq)
  exact hother

/-! ## The verdict -/

theorem validator_eq_accepted_iff :
    validator moment c store = .accepted ↔ rejection? moment c store = none := by
  unfold validator
  cases rejection? moment c store <;> simp

theorem validator_eq_rejected_iff {text : String} :
    validator moment c store = .rejected text ↔
      ∃ r, rejection? moment c store = some r ∧ r.message = text := by
  unfold validator
  cases rejection? moment c store <;> simp

theorem validator_ne_crashed : validator moment c store ≠ .crashed := by
  unfold validator
  cases rejection? moment c store <;> simp

/-- A certificate is accepted exactly when the instant lies in its validity and the store holds it
or an issuer within its own validity; else the first condition that fails is the reason, which
names the last issuer if all are outside of their validity. So acceptance depends only on which
certificates the store holds, and a new alias takes nothing away. -/
theorem validator_verdict :
    (∀ moment c store, validator moment c store = .accepted ↔ Accepts moment c store) ∧
    (∀ moment c store text, validator moment c store = .rejected text ↔
      ∃ r, Rejects moment c store r ∧ r.message = text) ∧
    (∀ moment c store, validator moment c store ≠ .crashed) ∧
    (∀ moment c store other,
      (∀ entry, entry ∈ store.certificates ↔ entry ∈ other.certificates) →
        (validator moment c store = .accepted ↔ validator moment c other = .accepted)) ∧
    ∀ moment c store label added, label ∉ store.aliases →
      validator moment c store = .accepted →
        validator moment c (store.insert label added) = .accepted := by
  have haccepted (moment c store) :
      validator moment c store = .accepted ↔ Accepts moment c store :=
    validator_eq_accepted_iff.trans rejection?_eq_none_iff
  refine ⟨haccepted, ?_, fun _ _ _ => validator_ne_crashed, ?_, ?_⟩
  · intro moment c store text
    simp only [validator_eq_rejected_iff, rejection?_eq_some_iff]
  · intro moment c store other h
    rw [haccepted, haccepted]
    exact Accepts.congr h
  · intro moment c store label added hlabel h
    rw [haccepted] at h ⊢
    refine h.mono fun entry hentry => ?_
    rw [TrustStore.certificates_insert hlabel]
    exact List.mem_append_left [added] hentry

/-- An instant in the validity of the sample certificates. -/
def sampleMoment : Instant := .ofSeconds 1800000000

/-- A certificate that a store holds stays accepted when another one is put beside it, and would
be accepted if that one came first. -/
theorem accepted_beside_another :
    ∃ c d, Certificate.listOfBase64 (Repository.sampleAnchor.chain ++
        Repository.renewedAnchor.chain) = .ok [c, d] ∧
      validator sampleMoment c (((TrustStore.empty "roots").insert "old" c).insert "new" d) =
        .accepted ∧
      validator sampleMoment c (((TrustStore.empty "roots").insert "new" d).insert "old" c) =
        .accepted := by
  have hseen : (Certificate.listOfBase64 (Repository.sampleAnchor.chain ++
      Repository.renewedAnchor.chain)).toOption.map (fun read => (read.length, read.all fun c =>
        decide (validator sampleMoment c ((TrustStore.empty "roots").insert "old" c) =
          .accepted))) = some (2, true) := by decide +kernel
  obtain ⟨read, hread, hseen⟩ := exists_eq_ok hseen
  obtain ⟨hlength, haccepted⟩ := Prod.mk.inj hseen
  obtain ⟨c, d, rfl⟩ := List.length_eq_two.mp hlength
  have hfirst := validator_verdict.2.2.2.2 sampleMoment c _ "new" d
    (by simp [TrustStore.aliases_insert])
    (of_decide_eq_true (List.all_eq_true.mp haccepted c List.mem_cons_self))
  refine ⟨c, d, hread, hfirst, ?_⟩
  refine (validator_verdict.2.2.2.1 sampleMoment c _ _ fun entry => ?_).mp hfirst
  simp [TrustStore.insert, TrustStore.insertEntry, TrustStore.empty, TrustStore.certificates,
    or_comm]

end Validation

end AnchoredMetadata
