import AnchoredMetadata.Proofs.Certificate.Name
import AnchoredMetadata.Proofs.Validation

/-!
# Whom a certificate names as its issuer

A certificate is issued by another if the texts of the two names agree and the
signature verifies. Between certificates with plain names this finds the names that
are the same, and the validator then takes no other entry of a store for an issuer.
Without plain names it may: one text can stand for several names, and all names that
cannot be decoded are alike.
-/

namespace AnchoredMetadata

namespace Certificate

variable {c i : Certificate}

/-- The names of a certificate can be read off their texts. -/
structure HasPlainNames (c : Certificate) : Prop where
  issuer : c.content.issuer.IsPlain
  subject : c.content.subject.IsPlain

theorem not_mem_of_ofEncoding {bytes : List UInt8} (h : ofEncoding bytes = .ok c) :
    [] ∉ c.content.issuer.parts ∧ [] ∉ c.content.subject.parts := by
  unfold ofEncoding at h
  split at h
  · next content rest hread =>
    obtain rfl := Except.ok.inj h
    exact Content.not_mem_of_read hread
  · cases h

theorem isIssuedBy_iff_text? (hc : ∃ bytes, ofEncoding bytes = .ok c)
    (hi : ∃ bytes, ofEncoding bytes = .ok i) :
    c.isIssuedBy i = true ↔
      c.content.issuer.text? = i.content.subject.text? ∧ c.isSignedBy i = true := by
  obtain ⟨_, hc⟩ := hc
  obtain ⟨_, hi⟩ := hi
  rw [isIssuedBy, Bool.and_eq_true, beq_iff_eq, issuer, subject,
    Name.text_eq_iff (not_mem_of_ofEncoding hc).1 (not_mem_of_ofEncoding hi).2]

theorem isSelfIssued_iff_text? (hc : ∃ bytes, ofEncoding bytes = .ok c) :
    c.isSelfIssued = true ↔ c.content.issuer.text? = c.content.subject.text? := by
  obtain ⟨_, hc⟩ := hc
  rw [isSelfIssued, beq_iff_eq, issuer, subject, eq_comm,
    Name.text_eq_iff (not_mem_of_ofEncoding hc).1 (not_mem_of_ofEncoding hc).2]

theorem isIssuedBy_iff_same (hc : ∃ bytes, ofEncoding bytes = .ok c)
    (hi : ∃ bytes, ofEncoding bytes = .ok i) (hplain : c.HasPlainNames)
    (hplain' : i.HasPlainNames) :
    c.isIssuedBy i = true ↔
      c.content.issuer.Same i.content.subject ∧ c.isSignedBy i = true := by
  rw [isIssuedBy_iff_text? hc hi]
  obtain ⟨_, hc⟩ := hc
  obtain ⟨_, hi⟩ := hi
  rw [Name.text?_eq_iff_same hplain.issuer hplain'.subject (not_mem_of_ofEncoding hc).1
    (not_mem_of_ofEncoding hi).2]

theorem isSelfIssued_iff_same (hc : ∃ bytes, ofEncoding bytes = .ok c) (hplain : c.HasPlainNames) :
    c.isSelfIssued = true ↔ c.content.issuer.Same c.content.subject := by
  rw [isSelfIssued_iff_text? hc]
  obtain ⟨_, hc⟩ := hc
  exact Name.text?_eq_iff_same hplain.issuer hplain.subject (not_mem_of_ofEncoding hc).1
    (not_mem_of_ofEncoding hc).2

end Certificate

open Certificate Time

namespace Validation

variable {c i : Certificate}

/-- An entry that may issue, by its mark or because its two names are the same, is named as the
issuer of a certificate and signed it. -/
structure IsNamedIssuer (c entry : Certificate) : Prop where
  permitted : entry.isAuthority = true ∨ entry.content.issuer.Same entry.content.subject
  named : c.content.issuer.Same entry.content.subject
  signed : c.isSignedBy entry = true

theorem isIssuer_iff_named (hc : ∃ bytes, ofEncoding bytes = .ok c)
    (hi : ∃ bytes, ofEncoding bytes = .ok i) (hplain : c.HasPlainNames)
    (hplain' : i.HasPlainNames) :
    IsIssuer c i ↔ IsNamedIssuer c i := by
  have hself : i.subject = i.issuer ↔ i.content.issuer.Same i.content.subject := by
    rw [← isSelfIssued_iff_same hi hplain', isSelfIssued, beq_iff_eq]
  constructor
  · rintro ⟨hpermitted, hissued⟩
    obtain ⟨hnamed, hsigned⟩ := (isIssuedBy_iff_same hc hi hplain hplain').mp hissued
    exact ⟨hpermitted.imp_right hself.mp, hnamed, hsigned⟩
  · rintro ⟨hpermitted, hnamed, hsigned⟩
    exact ⟨hpermitted.imp_right hself.mpr,
      (isIssuedBy_iff_same hc hi hplain hplain').mpr ⟨hnamed, hsigned⟩⟩

/-- A certificate is taken to be issued by another, or by itself, exactly when the two names have
the same text, or none; between plain names exactly when the names are the same. Among entries
with plain names the validator then lets those issue that are authorities or whose own names are
the same, and only what names them. -/
theorem issuing_of_plain_names (hc : ∃ bytes, ofEncoding bytes = .ok c)
    (hi : ∃ bytes, ofEncoding bytes = .ok i) :
    (c.isIssuedBy i = true ↔
      c.content.issuer.text? = i.content.subject.text? ∧ c.isSignedBy i = true) ∧
    (c.isSelfIssued = true ↔ c.content.issuer.text? = c.content.subject.text?) ∧
    (c.HasPlainNames →
      (c.isSelfIssued = true ↔ c.content.issuer.Same c.content.subject) ∧
      (c.isAuthority = false →
        (mayIssue c = true ↔ c.content.issuer.Same c.content.subject)) ∧
      (i.HasPlainNames → (c.isIssuedBy i = true ↔
        c.content.issuer.Same i.content.subject ∧ c.isSignedBy i = true)) ∧
      ∀ (moment : Instant) (store : TrustStore),
        (∀ entry ∈ store.certificates,
          (∃ bytes, ofEncoding bytes = .ok entry) ∧ entry.HasPlainNames) →
        (validator moment c store = .accepted ↔
          c.WithinValidity moment ∧
          ((∃ entry ∈ store.certificates, entry.encoding = c.encoding) ∨
            ∃ entry ∈ store.certificates,
              IsNamedIssuer c entry ∧ entry.WithinValidity moment))) := by
  refine ⟨isIssuedBy_iff_text? hc hi, isSelfIssued_iff_text? hc, fun hplain =>
    ⟨isSelfIssued_iff_same hc hplain, fun hmark => ?_, isIssuedBy_iff_same hc hi hplain,
      fun moment store hstore => ?_⟩⟩
  · rw [mayIssue, hmark, Bool.false_or, isSelfIssued_iff_same hc hplain]
  · rw [validator_eq_accepted_iff, rejection?_eq_none_iff]
    have hnamed {entry : Certificate} (hentry : entry ∈ store.certificates) :
        IsIssuer c entry ↔ IsNamedIssuer c entry :=
      isIssuer_iff_named hc (hstore entry hentry).1 hplain (hstore entry hentry).2
    have hstocked {entry : Certificate} (hentry : entry ∈ store.certificates) :
        store.entries ≠ [] :=
      fun hnone => List.ne_nil_of_mem hentry (TrustStore.certificates_eq_nil_iff.mpr hnone)
    constructor
    · rintro ⟨htimely, -, hheld | ⟨entry, hentry, hissuer, hvalid⟩⟩
      · exact ⟨htimely, Or.inl hheld⟩
      · exact ⟨htimely, Or.inr ⟨entry, hentry, (hnamed hentry).mp hissuer, hvalid⟩⟩
    · rintro ⟨htimely, ⟨entry, hentry, hsame⟩ | ⟨entry, hentry, hissuer, hvalid⟩⟩
      · exact ⟨htimely, hstocked hentry, Or.inl ⟨entry, hentry, hsame⟩⟩
      · exact ⟨htimely, hstocked hentry,
          Or.inr ⟨entry, hentry, (hnamed hentry).mpr hissuer, hvalid⟩⟩

/-! ## Sample certificates -/

/-- A short element with a tag byte and content. -/
def sampleElement (tag : UInt8) (content : List UInt8) : List UInt8 :=
  if content.length < 128 then tag :: UInt8.ofNat content.length :: content
  else tag :: 0x81 :: UInt8.ofNat content.length :: content

/-- A name with one attribute in each relative name: 3 is a common name, 10 an organization. -/
def sampleName (attributes : List (UInt8 × String)) : List UInt8 :=
  sampleElement 0x30 <| attributes.flatMap fun (type, value) =>
    sampleElement 0x31 <| sampleElement 0x30 <|
      sampleElement 0x06 [0x55, 0x04, type] ++ sampleElement 0x0C (Text.utf8Encode value.toList)

/-- The algorithm of the sample key, Ed25519. -/
def sampleAlgorithm : List UInt8 := sampleElement 0x30 (sampleElement 0x06 [0x2B, 0x65, 0x70])

/-- The sample key. -/
def sampleKey : List UInt8 :=
  [0x2B, 0x23, 0xC5, 0xE4, 0x71, 0x4A, 0x35, 0x51, 0x34, 0x8C, 0x47, 0x98, 0xB5, 0xC0, 0xB7, 0x23,
   0x4B, 0x64, 0x0D, 0x16, 0xA4, 0x79, 0xCE, 0x62, 0xE9, 0xEE, 0xFA, 0xEE, 0x0D, 0xB5, 0xBD, 0x75]

/-- A certificate for the sample key that is no authority, valid from 2020 to 2099. -/
def sampleEncoding (issuer subject : List (UInt8 × String)) (signature : List UInt8) :
    List UInt8 :=
  let validity := sampleElement 0x17 (Text.utf8Encode "200101000000Z".toList) ++
    sampleElement 0x18 (Text.utf8Encode "20990101000000Z".toList)
  sampleElement 0x30 <|
    sampleElement 0x30 (sampleElement 0x02 [0x01] ++ sampleAlgorithm ++ sampleName issuer ++
      sampleElement 0x30 validity ++ sampleName subject ++
      sampleElement 0x30 (sampleAlgorithm ++ sampleElement 0x03 (0x00 :: sampleKey))) ++
    sampleAlgorithm ++ sampleElement 0x03 (0x00 :: signature)

/-- A certificate with plain names that issued itself. -/
def plainSample : List UInt8 :=
  sampleEncoding [(3, "root")] [(3, "root")]
    [0xAD, 0x4E, 0xFA, 0x0C, 0xF1, 0xF5, 0x8B, 0x0E, 0x65, 0x10, 0xAE, 0x25, 0x5F, 0xCE, 0x8D, 0xD8,
     0x03, 0xB0, 0x6A, 0x84, 0xD6, 0x90, 0xB0, 0xC5, 0xF9, 0x66, 0x1D, 0xE7, 0x28, 0xD0, 0x3E, 0x6C,
     0x5C, 0xA5, 0x0F, 0x6B, 0xCD, 0xC4, 0xF3, 0xEE, 0x0C, 0x97, 0xF3, 0x26, 0x4A, 0x79, 0x56, 0xF5,
     0xFF, 0xAE, 0xE7, 0xA0, 0xAF, 0xFE, 0x58, 0xEF, 0x9A, 0x36, 0x57, 0x88, 0x54, 0xE8, 0xA9, 0x00]

/-- A certificate whose issuer has a comma in its common name, where its subject has a common name
and an organization. -/
def ambiguousSample : List UInt8 :=
  sampleEncoding [(3, "x, O=y")] [(3, "x"), (10, "y")]
    [0xE6, 0x56, 0x59, 0x4D, 0xA0, 0x8E, 0x4A, 0xCC, 0xE5, 0x2C, 0x3D, 0xC1, 0x87, 0x24, 0x1A, 0x73,
     0x80, 0x0B, 0xCE, 0x1A, 0x5E, 0xED, 0x17, 0xA4, 0xAE, 0x2F, 0x45, 0xBC, 0x40, 0x1A, 0x6B, 0x6A,
     0xC2, 0x3C, 0x90, 0x72, 0x04, 0xFE, 0x66, 0x0A, 0xD8, 0x94, 0x7D, 0x0F, 0xFE, 0x9D, 0x50, 0xD1,
     0xF8, 0xDB, 0x9C, 0xBF, 0x65, 0xE7, 0x00, 0xBD, 0x5C, 0x20, 0x8D, 0x89, 0x03, 0xC5, 0xDB, 0x0B]

/-- A certificate whose issuer has a comma in its common name, signed with the sample key. -/
def leafSample : List UInt8 :=
  sampleEncoding [(3, "x, O=y")] [(3, "leaf")]
    [0xA0, 0x05, 0x0E, 0x3C, 0x3C, 0xBB, 0x5A, 0xBF, 0xB8, 0x9D, 0xFC, 0x1C, 0xFA, 0xD9, 0xAF, 0x9E,
     0x0B, 0x61, 0x78, 0x1B, 0x6B, 0x6D, 0x0B, 0xFD, 0xC8, 0x5C, 0x9F, 0x61, 0xF0, 0x07, 0x85, 0x05,
     0x77, 0x31, 0x5E, 0x93, 0xF8, 0x3B, 0x34, 0x1D, 0xBF, 0x91, 0x35, 0xC0, 0x7E, 0x54, 0x07, 0x27,
     0xDC, 0x8A, 0xC3, 0xB3, 0x2B, 0xD2, 0x94, 0xBB, 0xBD, 0xC4, 0xA7, 0x92, 0xE0, 0x3C, 0xEB, 0x0B]

/-- A certificate with plain names that issued itself names itself. -/
theorem issued_by_itself :
    ∃ c, ofEncoding plainSample = .ok c ∧ c.HasPlainNames ∧ c.isIssuedBy c = true ∧
      c.content.issuer.Same c.content.subject := by
  have hseen : (ofEncoding plainSample).toOption.map (fun c =>
      decide (c.content.issuer.IsPlain ∧ c.content.subject.IsPlain ∧ c.isIssuedBy c = true)) =
        some true := by decide +kernel
  obtain ⟨c, hread, hseen⟩ := exists_eq_ok hseen
  obtain ⟨hissuer, hsubject, hissued⟩ := of_decide_eq_true hseen
  have hplain : c.HasPlainNames := ⟨hissuer, hsubject⟩
  have hnamed := (issuing_of_plain_names ⟨_, hread⟩ ⟨_, hread⟩).2.2 hplain
  exact ⟨c, hread, hplain, hissued, ((hnamed.2.2.1 hplain).mp hissued).1⟩

/-- A certificate is taken for issued by an entry under another name, and accepted because that
entry, which is no authority, is taken for self-issued under two different names. -/
theorem issued_under_another_name :
    ∃ c i, ofEncoding leafSample = .ok c ∧ ofEncoding ambiguousSample = .ok i ∧
      c.isIssuedBy i = true ∧ ¬ c.content.issuer.Same i.content.subject ∧
      i.isSelfIssued = true ∧ ¬ i.content.issuer.Same i.content.subject ∧
      i.isAuthority = false ∧
      validator (.ofSeconds 1800000000) c ((TrustStore.empty "roots").insert "entry" i) =
        .accepted := by
  have hseen : (ofEncoding leafSample >>= fun c =>
      (ofEncoding ambiguousSample).map fun i => (c, i)).toOption.map (fun (c, i) =>
        decide (c.isIssuedBy i = true ∧ ¬ c.content.issuer.Same i.content.subject ∧
          i.isSelfIssued = true ∧ ¬ i.content.issuer.Same i.content.subject ∧
          i.isAuthority = false ∧
          validator (.ofSeconds 1800000000) c ((TrustStore.empty "roots").insert "entry" i) =
            .accepted)) = some true := by decide +kernel
  obtain ⟨_, hread, hseen⟩ := exists_eq_ok hseen
  obtain ⟨c, hc, hread⟩ := bind_eq_ok hread
  obtain ⟨i, hi, rfl⟩ := map_eq_ok hread
  exact ⟨c, i, hc, hi, of_decide_eq_true hseen⟩

end Validation

end AnchoredMetadata
