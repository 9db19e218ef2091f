import AnchoredMetadata.Anchor.KeySet
import AnchoredMetadata.Proofs.Base64
import AnchoredMetadata.Proofs.Certificate.Chain
import AnchoredMetadata.Proofs.Except
import AnchoredMetadata.Proofs.Json.Records
import AnchoredMetadata.Proofs.Repository.Making
import Mathlib.Data.List.Basic

/-!
# Key sets read back

Anchors that are written as a set of keys read back as they were, in their order and with their
chains. The chain of an anchor that was made of certificates gives these certificates again; any
other chain is refused for its first text that cannot be read, or for having none.
-/

namespace AnchoredMetadata

namespace Anchor

open Json

/-! ## Sets of keys -/

/-- The members of a written key. -/
def keyMembers (a : Anchor) : List Member :=
  [⟨"kid", writeString a.entityId⟩, ⟨"x5c", writeList (a.chain.map writeString)⟩]

theorem keyMembers_values (a : Anchor) : ∀ m ∈ keyMembers a, IsValue m.value :=
  List.forall_mem_cons.mpr
    ⟨isValue_string _, List.forall_mem_singleton.mpr (isValue_list fun s _ => isValue_string s)⟩

theorem isValue_write (a : Anchor) : IsValue (write a) := isValue_object (keyMembers_values a)

theorem reads_key (a : Anchor) (depth : Nat) : Reads (read depth) depth (write a) a := by
  have hchain : Reads (readList (depth - 1) (readString "a string")) (depth - 1)
      (writeList (a.chain.map writeString)) a.chain :=
    reads_list (fun s _ => isValue_string s) fun hdepth s _ => reads_string _ (by omega) s
  have hfills (hdepth : 1 < depth) : Fills (keyFields depth) (depth - 1) ⟨none, none⟩ (keyMembers a)
      ⟨some a.entityId, some a.chain⟩ :=
    .cons rfl rfl ((reads_string _ (by omega) a.entityId).named _ _ _ _)
      (.cons rfl rfl (hchain.named _ _ _ _) (.nil _))
  have hrecord := reads_record "TrustAnchor" (keyMembers_values a) hfills rfl
  exact hrecord.finish fun rest => rfl

/-- The only member of a written set. -/
def setMembers (anchors : List Anchor) : List Member :=
  [⟨"keys", writeList (anchors.map write)⟩]

theorem setMembers_values (anchors : List Anchor) : ∀ m ∈ setMembers anchors, IsValue m.value :=
  List.forall_mem_singleton.mpr (isValue_list fun a _ => isValue_write a)

theorem reads_keys (anchors : List Anchor) (depth : Nat) :
    Reads (readKeys depth) depth (writeSet anchors) anchors := by
  have hkeys : Reads (readList (depth - 1) (read (depth - 2))) (depth - 1)
      (writeList (anchors.map write)) anchors :=
    reads_list (fun a _ => isValue_write a) fun _ a _ => reads_key a (depth - 2)
  have hfills (_ : 1 < depth) : Fills (setFields depth) (depth - 1) none (setMembers anchors)
      (some anchors) := .cons rfl rfl (hkeys.named _ _ _ _) (.nil _)
  have hrecord := reads_record "TrustAnchorSet" (setMembers_values anchors) hfills rfl
  exact hrecord.finish fun rest => rfl

/-- A set has four brackets inside one another: its own and that of the list, and those of a key and
of its chain. -/
theorem nesting_writeSet_lt (anchors : List Anchor) : nesting (writeSet anchors) < 5 := by
  refine (nesting_writeObject_lt_iff (setMembers_values anchors) (by decide)).mpr ?_
  refine List.forall_mem_singleton.mpr ?_
  refine (nesting_writeList_lt_iff (fun a _ => isValue_write a) (by decide)).mpr fun a _ => ?_
  refine (nesting_writeObject_lt_iff (keyMembers_values a) (by decide)).mpr ?_
  refine List.forall_mem_cons.mpr ⟨?_, List.forall_mem_singleton.mpr ?_⟩
  · rw [nesting_writeString]
    decide
  · refine (nesting_writeList_lt_iff (fun s _ => isValue_string s) (by decide)).mpr fun s _ => ?_
    rw [nesting_writeString]
    decide

theorem readSet_writeSet (anchors : List Anchor) :
    readSet (Text.utf8Encode (writeSet anchors)) = .ok anchors := by
  have hlimit : nesting (writeSet anchors) < depthLimit :=
    Nat.lt_trans (nesting_writeSet_lt anchors) (by decide)
  rw [readSet, (reads_keys anchors depthLimit).document, if_pos hlimit]

/-! ## Chains -/

/-- Some texts are refused for the first one that cannot be read. -/
def FailsFirst (texts : List String) (e : CertificateError) : Prop :=
  ∃ before text after, texts = before ++ text :: after ∧
    (∀ t ∈ before, ∃ c, Certificate.ofBase64 t = .ok c) ∧ Certificate.ofBase64 text = .error e

theorem failsFirst_cons {text : String} {rest : List String} {e : CertificateError} :
    FailsFirst (text :: rest) e ↔ Certificate.ofBase64 text = .error e ∨
      (∃ c, Certificate.ofBase64 text = .ok c) ∧ FailsFirst rest e := by
  constructor
  · rintro ⟨before, bad, after, heq, hbefore, hbad⟩
    cases before with
    | nil =>
      cases heq
      exact Or.inl hbad
    | cons t before =>
      cases heq
      obtain ⟨ht, hbefore⟩ := List.forall_mem_cons.mp hbefore
      exact Or.inr ⟨ht, before, bad, after, rfl, hbefore, hbad⟩
  · rintro (hbad | ⟨htext, before, bad, after, rfl, hbefore, hbad⟩)
    · exact ⟨[], text, rest, rfl, nofun, hbad⟩
    · exact ⟨text :: before, bad, after, rfl, List.forall_mem_cons.mpr ⟨htext, hbefore⟩, hbad⟩

theorem not_failsFirst_nil (e : CertificateError) : ¬ FailsFirst [] e := by
  rintro ⟨before, bad, after, heq, -⟩
  exact List.append_ne_nil_of_right_ne_nil before (List.cons_ne_nil bad after) heq.symm

theorem listOfBase64_eq_error_iff {texts : List String} {e : CertificateError} :
    Certificate.listOfBase64 texts = .error e ↔ FailsFirst texts e := by
  induction texts with
  | nil => exact iff_of_false nofun (not_failsFirst_nil e)
  | cons text rest ih =>
    rw [Certificate.listOfBase64_cons, failsFirst_cons, ← ih]
    cases Certificate.ofBase64 text with
    | error cause =>
      refine ⟨fun h => Or.inl ?_, fun h => h.elim (fun h => ?_) nofun⟩
      · cases h
        rfl
      · cases h
        rfl
    | ok c =>
      cases hrest : Certificate.listOfBase64 rest with
      | error cause => exact ⟨fun h => Or.inr ⟨⟨c, rfl⟩, h⟩, fun h => h.elim nofun And.right⟩
      | ok certificates => exact ⟨nofun, fun h => h.elim nofun fun hrest => absurd hrest.2 nofun⟩

theorem exists_failsFirst_iff {texts : List String} :
    (∃ e, FailsFirst texts e) ↔ ∃ t ∈ texts, ∃ e, Certificate.ofBase64 t = .error e := by
  induction texts with
  | nil => exact iff_of_false (fun ⟨e, h⟩ => not_failsFirst_nil e h) nofun
  | cons text rest ih =>
    simp only [failsFirst_cons, List.mem_cons, exists_eq_or_imp, ← ih]
    cases Certificate.ofBase64 text with
    | error cause => exact iff_of_true ⟨cause, Or.inl rfl⟩ (Or.inl ⟨cause, rfl⟩)
    | ok c =>
      constructor
      · rintro ⟨e, h | ⟨-, h⟩⟩
        · exact absurd h nofun
        · exact Or.inr ⟨e, h⟩
      · rintro (⟨e, h⟩ | ⟨e, h⟩)
        · exact absurd h nofun
        · exact ⟨e, Or.inr ⟨⟨c, rfl⟩, h⟩⟩

theorem listOfBase64_toBase64 {chain : List Certificate}
    (h : ∀ c ∈ chain, ∃ bytes, Certificate.ofEncoding bytes = .ok c) :
    Certificate.listOfBase64 (chain.map Certificate.toBase64) = .ok chain := by
  induction chain with
  | nil => rfl
  | cons c chain ih =>
    obtain ⟨⟨bytes, hc⟩, hchain⟩ := List.forall_mem_cons.mp h
    rw [List.map_cons, Certificate.listOfBase64_cons, Certificate.ofBase64_toBase64 hc, ih hchain]
    rfl

theorem certificates_eq_empty_iff {a : Anchor} {id : String} :
    a.certificates = .error (.empty id) ↔ a.chain = [] ∧ id = a.entityId := by
  rw [certificates]
  cases a.chain with
  | nil => exact ⟨fun h => ⟨rfl, by cases h; rfl⟩, fun h => by rw [h.2]; rfl⟩
  | cons text rest =>
    rw [List.isEmpty_cons, if_neg Bool.false_ne_true]
    refine iff_of_false ?_ fun h => absurd h.1 (List.cons_ne_nil text rest)
    cases Certificate.listOfBase64 (text :: rest) <;> exact nofun

theorem certificates_eq_certificate_iff {a : Anchor} {e : CertificateError} :
    a.certificates = .error (.certificate e) ↔ FailsFirst a.chain e := by
  rw [certificates]
  cases a.chain with
  | nil => exact iff_of_false nofun (not_failsFirst_nil e)
  | cons text rest =>
    rw [List.isEmpty_cons, if_neg Bool.false_ne_true, ← listOfBase64_eq_error_iff]
    cases Certificate.listOfBase64 (text :: rest) with
    | error cause => exact ⟨fun h => by cases h; rfl, fun h => by cases h; rfl⟩
    | ok certificates => exact iff_of_false nofun nofun

theorem certificates_fails_iff {a : Anchor} :
    (∃ e, a.certificates = .error e) ↔
      a.chain = [] ∨ ∃ t ∈ a.chain, ∃ e, Certificate.ofBase64 t = .error e := by
  rw [← exists_failsFirst_iff]
  constructor
  · rintro ⟨e, h⟩
    cases e with
    | empty id => exact Or.inl (certificates_eq_empty_iff.mp h).1
    | certificate cause => exact Or.inr ⟨cause, certificates_eq_certificate_iff.mp h⟩
  · rintro (h | ⟨cause, h⟩)
    · exact ⟨_, certificates_eq_empty_iff.mpr ⟨h, rfl⟩⟩
    · exact ⟨_, certificates_eq_certificate_iff.mpr h⟩

theorem certificates_ofCertificates (id : String) {chain : List Certificate} (hne : chain ≠ [])
    (h : ∀ c ∈ chain, ∃ bytes, Certificate.ofEncoding bytes = .ok c) :
    (ofCertificates id chain).certificates = .ok chain := by
  obtain ⟨c, rest, rfl⟩ := List.exists_cons_of_ne_nil hne
  have hlist := listOfBase64_toBase64 h
  rw [certificates, ofCertificates, hlist]
  rfl

/-- Anchors survive being written as a set of keys, whatever their identifiers and chains are, and
so do those that were read from any document. An anchor that was made of certificates is the same
when it is read back from its set, and its chain gives these certificates in their order. A chain
is refused when it is empty or some text of it is no certificate, and the reason is that it is empty
or the fault of the first such text. -/
theorem keySet_survives :
    (∀ anchors, readSet (Text.utf8Encode (writeSet anchors)) = .ok anchors) ∧
      (∀ document anchors, readSet document = .ok anchors →
        readSet (Text.utf8Encode (writeSet anchors)) = .ok anchors) ∧
      (∀ id chain, chain ≠ [] → (∀ c ∈ chain, ∃ bytes, Certificate.ofEncoding bytes = .ok c) →
        ∃ a, readSet (Text.utf8Encode (writeSet [ofCertificates id chain])) = .ok [a] ∧
          a = ofCertificates id chain ∧ a.certificates = .ok chain) ∧
      ∀ a : Anchor,
        (∀ id, a.certificates = .error (.empty id) ↔ a.chain = [] ∧ id = a.entityId) ∧
          ((∃ e, a.certificates = .error e) ↔
            a.chain = [] ∨ ∃ t ∈ a.chain, ∃ e, Certificate.ofBase64 t = .error e) ∧
          ∀ e, a.certificates = .error (.certificate e) ↔ FailsFirst a.chain e :=
  ⟨readSet_writeSet, fun _ anchors _ => readSet_writeSet anchors,
    fun id _ hne h => ⟨_, readSet_writeSet _, rfl, certificates_ofCertificates id hne h⟩,
    fun _ => ⟨fun _ => certificates_eq_empty_iff, certificates_fails_iff,
      fun _ => certificates_eq_certificate_iff⟩⟩

theorem sampleChain_survives :
    ∃ c d, Certificate.listOfBase64 (Repository.sampleAnchor.chain ++
        Repository.renewedAnchor.chain) = .ok [c, d] ∧
      ∃ a, readSet (Text.utf8Encode (writeSet [ofCertificates "shore" [c, d]])) = .ok [a] ∧
        a = ofCertificates "shore" [c, d] ∧ a.certificates = .ok [c, d] := by
  have hlength : (Certificate.listOfBase64 (Repository.sampleAnchor.chain ++
      Repository.renewedAnchor.chain)).toOption.map List.length = some 2 := by decide +kernel
  obtain ⟨chain, hread, hlength⟩ := exists_eq_ok hlength
  obtain ⟨c, d, rfl⟩ := List.length_eq_two.mp hlength
  exact ⟨c, d, hread, keySet_survives.2.2.1 "shore" [c, d] (List.cons_ne_nil c [d])
    (Certificate.exists_encoding_of_list hread)⟩

end Anchor

end AnchoredMetadata
