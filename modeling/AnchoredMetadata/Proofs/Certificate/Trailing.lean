import AnchoredMetadata.Proofs.Base64.Canonical
import AnchoredMetadata.SigningTrust
import AnchoredMetadata.Validation

/-!
# Bytes behind a certificate

An element says how long it is, so a reader of elements takes no notice of the bytes behind the one
that it takes off. A certificate is a sequence, and its fields are read from the content of that
sequence: with more bytes behind it, it says the same, but it is another certificate, because all
of its bytes are compared.
-/

namespace AnchoredMetadata

namespace Der

variable {α : Type}

/-- A reader takes no notice of what follows: the value that it takes off the front stays the same
when more bytes stand behind, and these are left over. -/
def TakesFront (read : Reader α) : Prop :=
  ∀ {bytes rest : List UInt8} {a : α} (more : List UInt8),
    read bytes = some (a, rest) → read (bytes ++ more) = some (a, rest ++ more)

theorem takesFront_readTagGroups (fuel n : Nat) : TakesFront (readTagGroups fuel n) := by
  intro bytes rest tag more h
  induction fuel generalizing n bytes with
  | zero => simp [readTagGroups] at h
  | succ fuel ih =>
    cases bytes with
    | nil => simp [readTagGroups] at h
    | cons b bytes =>
      simp only [readTagGroups, List.cons_append] at h ⊢
      by_cases hb : b < 0x80
      · simp only [hb, if_true, Option.some.injEq, Prod.mk.injEq] at h ⊢
        exact ⟨h.1, by rw [h.2]⟩
      · simp only [hb, if_false] at h ⊢
        exact ih _ h

theorem takesFront_readTag (identifier : UInt8) : TakesFront (readTag identifier) := by
  intro bytes rest tag more h
  unfold readTag at h ⊢
  by_cases hlong : identifier &&& 0x1F = 0x1F
  · simp only [hlong, if_true] at h ⊢
    exact takesFront_readTagGroups 5 0 more h
  · simp only [hlong, if_false, Option.some.injEq, Prod.mk.injEq] at h ⊢
    exact ⟨h.1, by rw [h.2]⟩

theorem takesFront_readLength : TakesFront readLength := by
  intro bytes rest length more h
  cases bytes with
  | nil => simp [readLength] at h
  | cons b bytes =>
    simp only [readLength, List.cons_append] at h ⊢
    by_cases hshort : b < 0x80
    · simp only [hshort, if_true, Option.some.injEq, Prod.mk.injEq] at h ⊢
      exact ⟨h.1, by rw [h.2]⟩
    simp only [hshort, if_false] at h ⊢
    by_cases hreserved : (b = 0x80 || b = 0xFF) = true
    · simp [hreserved] at h
    simp only [hreserved, Bool.false_eq_true, if_false] at h ⊢
    by_cases hcount : bytes.length < b.toNat - 0x80
    · simp [hcount] at h
    have hlong : ¬ (bytes ++ more).length < b.toNat - 0x80 := by
      rw [List.length_append]
      omega
    have htake : (bytes ++ more).take (b.toNat - 0x80) = bytes.take (b.toNat - 0x80) :=
      List.take_append_of_le_length (by omega)
    have hdrop : (bytes ++ more).drop (b.toNat - 0x80) = bytes.drop (b.toNat - 0x80) ++ more :=
      List.drop_append_of_le_length (by omega)
    simp only [hcount, hlong, if_false, htake, hdrop] at h ⊢
    by_cases hlimit : Bytes.toNat (bytes.take (b.toNat - 0x80)) < 18446744073709551616
    · rw [if_pos hlimit] at h ⊢
      obtain ⟨hlength, hrest⟩ := Prod.mk.inj (Option.some.inj h)
      rw [hlength, hrest]
    · simp [hlimit] at h

theorem takesFront_readElement : TakesFront readElement := by
  intro bytes rest e more h
  cases bytes with
  | nil => simp [readElement] at h
  | cons identifier bytes =>
    obtain ⟨⟨tag, afterTag⟩, htag, h⟩ := Option.bind_eq_some_iff.mp h
    obtain ⟨⟨length, afterLength⟩, hlength, h⟩ := Option.bind_eq_some_iff.mp h
    simp only at h
    by_cases hshort : afterLength.length < length
    · simp [hshort] at h
    simp only [hshort, if_false, Option.some.injEq, Prod.mk.injEq] at h
    obtain ⟨rfl, rfl⟩ := h
    have hlong : ¬ (afterLength ++ more).length < length := by
      rw [List.length_append]
      omega
    have htake : (afterLength ++ more).take length = afterLength.take length :=
      List.take_append_of_le_length (by omega)
    have hdrop : (afterLength ++ more).drop length = afterLength.drop length ++ more :=
      List.drop_append_of_le_length (by omega)
    -- header and content are as many bytes as before, counted from the end
    have hcount : (bytes ++ more).length + 1 - (afterLength.drop length ++ more).length =
        bytes.length + 1 - (afterLength.drop length).length := by
      simp only [List.length_append]
      omega
    have hencoding (count : Nat) :
        (identifier :: (bytes ++ more)).take (bytes.length + 1 - count) =
          (identifier :: bytes).take (bytes.length + 1 - count) := by
      rw [← List.cons_append, List.take_append_of_le_length]
      simp only [List.length_cons]
      omega
    simp only [readElement, List.cons_append, takesFront_readTag identifier more htag,
      takesFront_readLength more hlength, Option.bind_eq_bind, Option.bind_some, hlong, if_false,
      htake, hdrop, hcount, hencoding]

theorem takesFront_readTagged (tag : Nat) : TakesFront (readTagged tag) := by
  intro bytes rest e more h
  obtain ⟨⟨found, afterElement⟩, helement, h⟩ := Option.bind_eq_some_iff.mp h
  rw [readTagged, takesFront_readElement more helement]
  by_cases htag : found.tag = tag
  · simp only [htag, if_true] at h
    cases h
    simp [htag]
  · simp [htag] at h

/-- Whatever reads the content of a sequence sees nothing of the bytes behind the sequence. -/
theorem takesFront_readSequence (content : Reader α) : TakesFront (readSequence content) := by
  intro bytes rest a more h
  obtain ⟨⟨e, afterElement⟩, helement, h⟩ := Option.bind_eq_some_iff.mp h
  obtain ⟨⟨b, unread⟩, hcontent, h⟩ := Option.bind_eq_some_iff.mp h
  simp only [Option.some.injEq, Prod.mk.injEq] at h
  obtain ⟨rfl, rfl⟩ := h
  rw [readSequence, takesFront_readTagged sequenceTag more helement]
  simp [hcontent]

end Der

namespace Certificate

variable {c d : Certificate}

theorem ofEncoding_eq_ok_iff {bytes : List UInt8} :
    ofEncoding bytes = .ok c ↔
      c.encoding = bytes ∧ ∃ rest, Content.read bytes = some (c.content, rest) := by
  rw [ofEncoding]
  constructor
  · intro h
    split at h
    · next content rest hread =>
      cases h
      exact ⟨rfl, rest, hread⟩
    · cases h
  · rintro ⟨rfl, rest, hread⟩
    rw [hread]

/-- A certificate with bytes behind it has the content of the certificate. -/
theorem ofEncoding_append {bytes : List UInt8} (h : ofEncoding bytes = .ok c)
    (more : List UInt8) : ofEncoding (bytes ++ more) = .ok ⟨bytes ++ more, c.content⟩ := by
  obtain ⟨-, rest, hread⟩ := ofEncoding_eq_ok_iff.mp h
  rw [ofEncoding_eq_ok_iff]
  exact ⟨rfl, rest ++ more, Der.takesFront_readSequence _ more hread⟩

/-- Two certificates say the same: they differ in no field, and as issuers or as issued ones no
other certificate can tell them apart. -/
structure SaysSame (c d : Certificate) : Prop where
  /-- They belong to the same subject. -/
  subject : c.subject = d.subject
  /-- They name the same issuer. -/
  issuer : c.issuer = d.issuer
  /-- They have the same serial number. -/
  serial : c.serial = d.serial
  /-- They become valid at the same instant. -/
  notBefore : c.notBefore = d.notBefore
  /-- They expire at the same instant. -/
  notAfter : c.notAfter = d.notAfter
  /-- They certify the same key. -/
  publicKey : c.publicKey = d.publicKey
  /-- Both are marked as authorities, or neither is. -/
  isAuthority : c.isAuthority = d.isAuthority
  /-- They are issued by the same certificates. -/
  issued (other : Certificate) : c.isIssuedBy other = d.isIssuedBy other
  /-- They issue the same certificates. -/
  issues (other : Certificate) : other.isIssuedBy c = other.isIssuedBy d

/-- Everything but the comparison of certificates looks at the content only. -/
theorem saysSame_of_content (h : c.content = d.content) : SaysSame c d := by
  obtain ⟨_, content⟩ := c
  subst h
  constructor <;> intros <;> rfl

theorem SaysSame.isValidAt_eq (h : SaysSame c d) (moment : Time.Instant) :
    c.isValidAt moment = d.isValidAt moment := by
  change (decide (c.notBefore ≤ moment) && decide (moment ≤ c.notAfter)) =
    (decide (d.notBefore ≤ moment) && decide (moment ≤ d.notAfter))
  rw [h.notBefore, h.notAfter]

end Certificate

open Certificate

namespace Validation

variable {c d : Certificate} {moment : Time.Instant} {store : TrustStore}

/-- Looking for an issuer ends in the same way for certificates that say the same. -/
theorem rejectionBy?_congr (h : SaysSame c d) (expired : Option Certificate)
    (entries : List Certificate) :
    rejectionBy? moment c expired entries = rejectionBy? moment d expired entries := by
  induction entries generalizing expired with
  | nil => simp only [rejectionBy?, h.subject, h.issuer]
  | cons entry rest ih => simp only [rejectionBy?, h.issued entry, ih]

/-- Only whether the store holds them can tell certificates that say the same apart. -/
theorem rejection?_congr (h : SaysSame c d) (hheld : store.contains c = store.contains d) :
    rejection? moment c store = rejection? moment d store := by
  simp only [rejection?, hheld, h.isValidAt_eq, h.subject, h.notBefore, h.notAfter,
    rejectionBy?_congr h]

/-- A store holds the first of two certificates and not the second, and accepts the first for that
alone. -/
structure HoldsOnly (moment : Time.Instant) (store : TrustStore) (c d : Certificate) : Prop where
  /-- The first one is held. -/
  held : store.contains c = true
  /-- The second one is not held. -/
  apart : store.contains d = false
  /-- The first one is accepted. -/
  accepted : validator moment c store = .accepted

/-- Verdicts on certificates that say the same differ only if the store holds just one of them. -/
theorem validator_eq_or_holdsOnly (h : SaysSame c d) (moment : Time.Instant) (store : TrustStore) :
    validator moment c store = validator moment d store ∨
      HoldsOnly moment store c d ∨ HoldsOnly moment store d c := by
  by_cases hheld : store.contains c = store.contains d
  · left
    simp only [validator, rejection?_congr h hheld]
  by_cases htimely : c.isValidAt moment = true
  case neg =>
    left
    have htimely' : d.isValidAt moment = false := by
      simpa [h.isValidAt_eq moment] using htimely
    simp [validator, rejection?, htimely, htimely', h.subject, h.notBefore, h.notAfter]
  by_cases hempty : store.isEmpty = true
  · left
    have htimely' : d.isValidAt moment = true := by rw [← h.isValidAt_eq moment, htimely]
    simp [validator, rejection?, htimely, htimely', hempty]
  -- within validity a store that is not empty accepts what it holds
  have haccepted (x : Certificate) (hx : x.isValidAt moment = true)
      (hin : store.contains x = true) : validator moment x store = .accepted := by
    simp [validator, rejection?, hx, hempty, hin]
  right
  cases hc : store.contains c with
  | true =>
    have hd : store.contains d = false := by simpa [hc] using hheld
    exact Or.inl ⟨hc, hd, haccepted c htimely hc⟩
  | false =>
    have hd : store.contains d = true := by simpa [hc] using hheld
    exact Or.inr ⟨hd, hc, haccepted d (by rw [← h.isValidAt_eq moment, htimely]) hd⟩

end Validation

namespace SigningTrust

variable {c d : Certificate}

theorem isTrusted_congr (h : SaysSame c d) (m : Option Metadata) (p : Purpose) :
    isTrusted m c p = isTrusted m d p := by
  simp only [isTrusted, h.publicKey]

theorem events_congr (h : SaysSame c d) (m : Option Metadata) (p : Purpose) :
    events m c p = events m d p := by
  simp only [events, isTrusted_congr h, h.subject]

end SigningTrust

namespace Certificate

variable {c : Certificate} {bytes : List UInt8}

/-- What is read as a certificate is read as one with any bytes behind it. The second certificate
says the same as the first, though they are equal only if there are no bytes. So the verdict on it
is another one only if the store holds just one of the two, and as a credential it is trusted in
the same way. -/
theorem bytes_behind_say_nothing (h : ofEncoding bytes = .ok c) (more : List UInt8) :
    ∃ longer, ofEncoding (bytes ++ more) = .ok longer ∧ SaysSame longer c ∧
      ((longer == c) = true ↔ more = []) ∧
      (∀ moment store,
        Validation.validator moment longer store = Validation.validator moment c store ∨
          Validation.HoldsOnly moment store longer c ∨
          Validation.HoldsOnly moment store c longer) ∧
      ∀ m p, SigningTrust.isTrusted m longer p = SigningTrust.isTrusted m c p ∧
        SigningTrust.events m longer p = SigningTrust.events m c p := by
  have hsame : SaysSame ⟨bytes ++ more, c.content⟩ c := saysSame_of_content rfl
  refine ⟨_, ofEncoding_append h more, hsame, ?_, ?_, ?_⟩
  · rw [beq_def, beq_iff_eq, encoding_of_ofEncoding h]
    simp
  · exact Validation.validator_eq_or_holdsOnly hsame
  · intro m p
    exact ⟨SigningTrust.isTrusted_congr hsame m p, SigningTrust.events_congr hsame m p⟩

/-- A root that a store holds is accepted, and the same root with a zero byte behind it is not: the
store does not hold that one, and the root's signature is no signature of its own key. -/
theorem zero_byte_behind_root :
    ∃ c longer, ofBase64 inOneLine = .ok c ∧ ofEncoding (c.encoding ++ [0]) = .ok longer ∧
      (longer == c) = false ∧ longer.publicKey = c.publicKey ∧
      Validation.HoldsOnly (.ofSeconds 1800000000) (.ofChain "roots" [c]) c longer ∧
      Validation.validator (.ofSeconds 1800000000) longer (.ofChain "roots" [c]) =
        .rejected "no trusted issuer found for certificate '' (issuer '')" := by
  have hseen : (ofBase64 inOneLine).toOption.map (fun c =>
      (decide (Validation.validator (.ofSeconds 1800000000) c (.ofChain "roots" [c]) = .accepted),
        Validation.validator (.ofSeconds 1800000000) ⟨c.encoding ++ [0], c.content⟩
          (.ofChain "roots" [c]))) =
      some (true, .rejected "no trusted issuer found for certificate '' (issuer '')") := by
    decide +kernel
  obtain ⟨c, hc, hverdicts⟩ := exists_eq_ok hseen
  obtain ⟨haccepted, hrejected⟩ := Prod.mk.inj hverdicts
  have hmade : ofEncoding c.encoding = .ok c := (ofBase64_eq_ok_iff.mp hc).1
  obtain ⟨longer, hlonger, hsame, hequal, hverdict, -⟩ := bytes_behind_say_nothing hmade [0]
  have hshape : longer = ⟨c.encoding ++ [0], c.content⟩ :=
    Except.ok.inj (hlonger.symm.trans (ofEncoding_append hmade [0]))
  rw [← hshape] at hrejected
  have hdiffer := hverdict (.ofSeconds 1800000000) (.ofChain "roots" [c])
  rw [of_decide_eq_true haccepted, hrejected] at hdiffer
  refine ⟨c, longer, hc, hlonger, ?_, hsame.publicKey, ?_, hrejected⟩
  · simpa using mt hequal.mp
  · rcases hdiffer with heq | honly | honly
    · exact absurd heq nofun
    · exact absurd (hrejected.symm.trans honly.accepted) nofun
    · exact honly

end Certificate

end AnchoredMetadata
