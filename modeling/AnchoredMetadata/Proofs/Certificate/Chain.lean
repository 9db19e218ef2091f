import AnchoredMetadata.Certificate
import AnchoredMetadata.Proofs.Time.Earliest

/-!
# Chains of certificates

A chain that can be read has a certificate for each of its texts, in their
order. Its earliest expiry is the end of validity of one of its certificates,
and no other one ends before.
-/

namespace AnchoredMetadata

open Time

namespace Certificate

/-- A chain is read certificate by certificate. -/
theorem listOfBase64_cons (text : String) (rest : List String) :
    listOfBase64 (text :: rest) =
      match ofBase64 text with
      | .error e => .error e
      | .ok c => (listOfBase64 rest).map (c :: ·) := by
  have hcons : listOfBase64 (text :: rest) = do
      return (← ofBase64 text) :: (← listOfBase64 rest) := List.mapM_cons
  rw [hcons]
  cases ofBase64 text with
  | error e => rfl
  | ok c => cases listOfBase64 rest <;> rfl

/-- Texts that can be read stand for certificates one by one. -/
theorem map_ofBase64_of_list {texts : List String} {certificates : List Certificate}
    (h : listOfBase64 texts = .ok certificates) :
    texts.map ofBase64 = certificates.map .ok := by
  induction texts generalizing certificates with
  | nil =>
    obtain rfl := Except.ok.inj h
    rfl
  | cons text rest ih =>
    rw [listOfBase64_cons] at h
    cases htext : ofBase64 text with
    | error cause =>
      rw [htext] at h
      exact absurd h nofun
    | ok c =>
      cases hrest : listOfBase64 rest with
      | error cause =>
        rw [htext, hrest] at h
        exact absurd h nofun
      | ok others =>
        rw [htext, hrest] at h
        obtain rfl := Except.ok.inj h
        rw [List.map_cons, List.map_cons, htext, ih hrest]

/-- Every certificate of a chain was read from some bytes. -/
theorem exists_encoding_of_list {texts : List String} {certificates : List Certificate}
    (h : listOfBase64 texts = .ok certificates) :
    ∀ c ∈ certificates, ∃ bytes, ofEncoding bytes = .ok c := by
  intro c hc
  have hmem : Except.ok c ∈ texts.map ofBase64 := by
    rw [map_ofBase64_of_list h]
    exact List.mem_map_of_mem hc
  obtain ⟨text, -, htext⟩ := List.mem_map.mp hmem
  rw [ofBase64] at htext
  split at htext
  · next bytes _ => exact ⟨bytes, htext⟩
  · cases htext

/-- An instant is the end of validity of one of some certificates, and none ends before. -/
def IsFirstExpiry (t : Instant) (certificates : List Certificate) : Prop :=
  (∃ c ∈ certificates, c.notAfter = t) ∧ ∀ c ∈ certificates, t ≤ c.notAfter

/-- The earliest expiry is the first one. -/
theorem earliestExpiry_eq_some_iff {certificates : List Certificate} {t : Instant} :
    earliestExpiry certificates = some t ↔ IsFirstExpiry t certificates := by
  cases certificates with
  | nil => simp [earliestExpiry, IsFirstExpiry]
  | cons c rest =>
    have hends : rest.foldl (fun t d => t.earlier d.notAfter) c.notAfter =
        (rest.map notAfter).foldl Instant.earlier c.notAfter := List.foldl_map.symm
    rw [earliestExpiry, Option.some.injEq, hends, Instant.foldl_earlier_eq_iff, ← List.map_cons,
      List.mem_map, List.forall_mem_map]
    exact Iff.rfl

end Certificate

end AnchoredMetadata
