import AnchoredMetadata.Proofs.Certificate.Chain
import Mathlib.Order.Bounds.Defs

/-!
# Certificates by the end of their validity

Sorting by expiry moves no certificate past another one that ends at the same
instant. Together with the order of the ends this leaves just one list, which
is why every statement about the sort goes through the certificates that end at
one instant. The earliest expiry is that of the first certificate of this list,
so neither the order of a chain nor the parts it comes in make a difference.
-/

namespace AnchoredMetadata

open Time

namespace Certificate

variable {certificates others : List Certificate} {c : Certificate} {t : Instant}

/-! ## Certificates that end together -/

/-- The certificates whose validity ends at an instant, in their order. -/
def endingAt (t : Instant) (certificates : List Certificate) : List Certificate :=
  certificates.filter fun c => c.notAfter = t

theorem endingAt_cons_self (c : Certificate) (rest : List Certificate) :
    endingAt c.notAfter (c :: rest) = c :: endingAt c.notAfter rest :=
  List.filter_cons_of_pos (decide_eq_true rfl)

theorem endingAt_cons_of_ne (rest : List Certificate) (h : c.notAfter ≠ t) :
    endingAt t (c :: rest) = endingAt t rest :=
  List.filter_cons_of_neg (mt of_decide_eq_true h)

theorem mem_endingAt_iff : c ∈ endingAt t certificates ↔ c ∈ certificates ∧ c.notAfter = t := by
  rw [endingAt, List.mem_filter, decide_eq_true_eq]

theorem endingAt_endingAt (t : Instant) (certificates : List Certificate) :
    endingAt t (endingAt t certificates) = endingAt t certificates :=
  List.filter_eq_self.mpr fun _ hc => decide_eq_true (mem_endingAt_iff.mp hc).2

/-- Lists that agree on what ends at each instant have the same certificates. -/
theorem mem_of_endingAt_eq (h : ∀ t, endingAt t certificates = endingAt t others)
    (hc : c ∈ certificates) : c ∈ others := by
  have hending : c ∈ endingAt c.notAfter others := by
    rw [← h]
    exact mem_endingAt_iff.mpr ⟨hc, rfl⟩
  exact (mem_endingAt_iff.mp hending).1

/-! ## The order -/

/-- Of certificates in order, each ends no later than those behind it. -/
def EndsInOrder (certificates : List Certificate) : Prop :=
  certificates.Pairwise fun a b => a.notAfter ≤ b.notAfter

/-- A list of certificates is another one by the end of validity, in a stable way. -/
structure IsByExpiry (sorted certificates : List Certificate) : Prop where
  /-- It has the same certificates, each as often. -/
  perm : sorted.Perm certificates
  /-- Each certificate ends no later than those behind it. -/
  ordered : EndsInOrder sorted
  /-- Certificates that end together stand in the order in which they were given. -/
  stable (t : Instant) : endingAt t sorted = endingAt t certificates

theorem notAfter_le_trans (a b c : Certificate) (hab : decide (a.notAfter ≤ b.notAfter) = true)
    (hbc : decide (b.notAfter ≤ c.notAfter) = true) : decide (a.notAfter ≤ c.notAfter) = true :=
  decide_eq_true (Int.le_trans (of_decide_eq_true hab) (of_decide_eq_true hbc))

theorem notAfter_le_total (a b : Certificate) :
    (decide (a.notAfter ≤ b.notAfter) || decide (b.notAfter ≤ a.notAfter)) = true := by
  rw [Bool.or_eq_true, decide_eq_true_eq, decide_eq_true_eq]
  exact Int.le_total a.notAfter.nanoseconds b.notAfter.nanoseconds

theorem sortByExpiry_perm (certificates : List Certificate) :
    (sortByExpiry certificates).Perm certificates :=
  List.mergeSort_perm certificates _

theorem endsInOrder_sortByExpiry (certificates : List Certificate) :
    EndsInOrder (sortByExpiry certificates) := by
  have h := List.pairwise_mergeSort notAfter_le_trans notAfter_le_total certificates
  exact h.imp of_decide_eq_true

/-- What ends together is in order as it is given, so the sort leaves it in that order. -/
theorem endingAt_sublist_sortByExpiry (t : Instant) (certificates : List Certificate) :
    (endingAt t certificates).Sublist (sortByExpiry certificates) := by
  refine List.sublist_mergeSort notAfter_le_trans notAfter_le_total ?_ List.filter_sublist
  refine List.pairwise_of_forall_mem_list ?_
  intro a ha b hb
  rw [(mem_endingAt_iff.mp ha).2, (mem_endingAt_iff.mp hb).2]
  exact decide_eq_true (Int.le_refl t.nanoseconds)

theorem endingAt_sortByExpiry (t : Instant) (certificates : List Certificate) :
    endingAt t (sortByExpiry certificates) = endingAt t certificates := by
  have hkept : (endingAt t certificates).Sublist (endingAt t (sortByExpiry certificates)) := by
    rw [← endingAt_endingAt]
    exact (endingAt_sublist_sortByExpiry t certificates).filter _
  have hsize : (endingAt t (sortByExpiry certificates)).length = (endingAt t certificates).length :=
    ((sortByExpiry_perm certificates).filter _).length_eq
  exact (hkept.eq_of_length hsize.symm).symm

theorem isByExpiry_sortByExpiry (certificates : List Certificate) :
    IsByExpiry (sortByExpiry certificates) certificates :=
  ⟨sortByExpiry_perm certificates, endsInOrder_sortByExpiry certificates,
    fun t => endingAt_sortByExpiry t certificates⟩

/-- Of certificates in order, none ends before the first. -/
theorem EndsInOrder.head_le {rest : List Certificate} (h : EndsInOrder (c :: rest))
    {d : Certificate} (hd : d ∈ c :: rest) : c.notAfter ≤ d.notAfter := by
  rcases List.mem_cons.mp hd with rfl | hd
  · exact Int.le_refl _
  · exact (List.pairwise_cons.mp h).1 d hd

/-- Certificates in order are determined by those that end at each instant. -/
theorem EndsInOrder.eq_of_endingAt_eq (hleft : EndsInOrder certificates)
    (hright : EndsInOrder others) (h : ∀ t, endingAt t certificates = endingAt t others) :
    certificates = others := by
  induction certificates generalizing others with
  | nil =>
    cases others with
    | nil => rfl
    | cons d others =>
      have hd := mem_of_endingAt_eq (fun t => (h t).symm) List.mem_cons_self
      exact absurd hd List.not_mem_nil
  | cons c rest ih =>
    cases others with
    | nil =>
      have hc := mem_of_endingAt_eq h List.mem_cons_self
      exact absurd hc List.not_mem_nil
    | cons d others =>
      -- each head is a certificate of the other list, so the two end together
      have hd : d ∈ c :: rest := mem_of_endingAt_eq (fun t => (h t).symm) List.mem_cons_self
      have hc : c ∈ d :: others := mem_of_endingAt_eq h List.mem_cons_self
      have hsame : c.notAfter = d.notAfter :=
        Instant.le_antisymm (hleft.head_le hd) (hright.head_le hc)
      have hfirst := h c.notAfter
      rw [endingAt_cons_self, hsame, endingAt_cons_self] at hfirst
      obtain ⟨rfl, hbehind⟩ := List.cons.inj hfirst
      have hrest (t : Instant) : endingAt t rest = endingAt t others := by
        by_cases ht : c.notAfter = t
        · rw [← ht, hbehind]
        · have hlater := h t
          rwa [endingAt_cons_of_ne rest ht, endingAt_cons_of_ne others ht] at hlater
      rw [ih (List.pairwise_cons.mp hleft).2 (List.pairwise_cons.mp hright).2 hrest]

/-- There is just one list by expiry. -/
theorem IsByExpiry.eq_sortByExpiry (h : IsByExpiry others certificates) :
    others = sortByExpiry certificates := by
  refine h.ordered.eq_of_endingAt_eq (endsInOrder_sortByExpiry certificates) ?_
  intro t
  rw [h.stable, endingAt_sortByExpiry]

/-! ## The earliest expiry -/

theorem earliestExpiry_eq_none_iff : earliestExpiry certificates = none ↔ certificates = [] := by
  cases certificates with
  | nil => simp [earliestExpiry]
  | cons c rest => simp [earliestExpiry]

/-- With a certificate there is an earliest expiry, and it is not after the end of that one. -/
theorem exists_earliestExpiry_le (hc : c ∈ certificates) :
    ∃ t, earliestExpiry certificates = some t ∧ t ≤ c.notAfter := by
  have hsome : earliestExpiry certificates ≠ none := by
    rw [Ne, earliestExpiry_eq_none_iff]
    exact List.ne_nil_of_mem hc
  obtain ⟨t, ht⟩ := Option.ne_none_iff_exists'.mp hsome
  exact ⟨t, ht, (earliestExpiry_eq_some_iff.mp ht).2 c hc⟩

theorem earliestExpiry_perm (h : others.Perm certificates) :
    earliestExpiry others = earliestExpiry certificates := by
  ext t
  simp only [earliestExpiry_eq_some_iff, IsFirstExpiry, h.mem_iff]

theorem EndsInOrder.earliestExpiry_eq (h : EndsInOrder certificates) :
    earliestExpiry certificates = certificates.head?.map notAfter := by
  cases certificates with
  | nil => rfl
  | cons c rest =>
    rw [List.head?_cons, Option.map_some, earliestExpiry_eq_some_iff]
    exact ⟨⟨c, List.mem_cons_self, rfl⟩, fun d hd => h.head_le hd⟩

/-- The sort and the search for the earliest expiry agree. -/
theorem earliestExpiry_eq_head (certificates : List Certificate) :
    earliestExpiry certificates = (sortByExpiry certificates).head?.map notAfter := by
  rw [← (endsInOrder_sortByExpiry certificates).earliestExpiry_eq,
    earliestExpiry_perm (sortByExpiry_perm certificates)]

/-- The earliest expiry of some lists together is the least of theirs; an empty list has none. -/
theorem earliestExpiry_flatten_eq_some_iff {parts : List (List Certificate)} :
    earliestExpiry parts.flatten = some t ↔
      IsLeast {u | ∃ part ∈ parts, earliestExpiry part = some u} t := by
  rw [earliestExpiry_eq_some_iff]
  constructor
  · rintro ⟨⟨c, hc, rfl⟩, hleast⟩
    have hbelow (part : List Certificate) (hpart : part ∈ parts) (d : Certificate) (hd : d ∈ part) :
        c.notAfter ≤ d.notAfter := hleast d (List.mem_flatten.mpr ⟨part, hpart, hd⟩)
    obtain ⟨part, hpart, hc⟩ := List.mem_flatten.mp hc
    refine ⟨⟨part, hpart, earliestExpiry_eq_some_iff.mpr ⟨⟨c, hc, rfl⟩, hbelow part hpart⟩⟩, ?_⟩
    rintro u ⟨part, hpart, hu⟩
    obtain ⟨⟨d, hd, rfl⟩, -⟩ := earliestExpiry_eq_some_iff.mp hu
    exact hbelow part hpart d hd
  · rintro ⟨⟨part, hpart, ht⟩, hleast⟩
    obtain ⟨⟨c, hc, rfl⟩, -⟩ := earliestExpiry_eq_some_iff.mp ht
    refine ⟨⟨c, List.mem_flatten.mpr ⟨part, hpart, hc⟩, rfl⟩, ?_⟩
    intro d hd
    obtain ⟨part, hpart, hd⟩ := List.mem_flatten.mp hd
    obtain ⟨u, hu, hle⟩ := exists_earliestExpiry_le hd
    exact Int.le_trans (hleast ⟨part, hpart, hu⟩) hle

/-! ## Main statement -/

/-- Sorting by expiry gives the same certificates by the end of their validity, where those that end
together stand in the order in which they were given, and there is no other such list. The earliest
expiry is that of its first certificate. It is the end of one of the certificates and comes after
none of their ends, and there is one unless there is no certificate. The order of the certificates
makes no difference, and for certificates in parts it is the least of the earliest expiries of the
parts. -/
theorem expiry_order (certificates : List Certificate) :
    IsByExpiry (sortByExpiry certificates) certificates ∧
    (∀ sorted, IsByExpiry sorted certificates → sorted = sortByExpiry certificates) ∧
    earliestExpiry certificates = (sortByExpiry certificates).head?.map notAfter ∧
    (earliestExpiry certificates = none ↔ certificates = []) ∧
    (∀ t, earliestExpiry certificates = some t ↔ IsFirstExpiry t certificates) ∧
    (∀ others, others.Perm certificates →
      earliestExpiry others = earliestExpiry certificates) ∧
    ∀ parts : List (List Certificate), parts.flatten.Perm certificates → ∀ t,
      earliestExpiry certificates = some t ↔
        IsLeast {u | ∃ part ∈ parts, earliestExpiry part = some u} t := by
  refine ⟨isByExpiry_sortByExpiry certificates, ?_, earliestExpiry_eq_head certificates,
    earliestExpiry_eq_none_iff, fun t => earliestExpiry_eq_some_iff, ?_, ?_⟩
  · intro sorted h
    exact h.eq_sortByExpiry
  · intro others h
    exact earliestExpiry_perm h
  · intro parts h t
    rw [← earliestExpiry_perm h, earliestExpiry_flatten_eq_some_iff]

/-- A certificate with a byte as its encoding that is valid for some seconds from 1970 on. -/
def lasting (label : UInt8) (seconds : Int) : Certificate where
  encoding := [label]
  content :=
    { serial := [label], issuer := ⟨[]⟩, validity := ⟨.ofSeconds 0, .ofSeconds seconds⟩
      subject := ⟨[]⟩, key := ⟨⟨⟨[]⟩, none⟩, [], []⟩, isAuthority := false
      signedPart := [], signatureAlgorithm := ⟨[]⟩, signature := [] }

/-- Two certificates that end together stay in the order in which they were given, before one that
ends later. Their end is the earliest expiry of the three in another order, and the least one of
parts where one part is empty and the two stand in different parts. -/
theorem expiry_order_of_two_together :
    sortByExpiry [lasting 3 8, lasting 1 5, lasting 2 5] =
        [lasting 1 5, lasting 2 5, lasting 3 8] ∧
      earliestExpiry [lasting 2 5, lasting 3 8, lasting 1 5] = some (.ofSeconds 5) ∧
      IsLeast {u | ∃ part ∈ [[lasting 3 8, lasting 1 5], [], [lasting 2 5]],
        earliestExpiry part = some u} (.ofSeconds 5) := by
  obtain ⟨-, hunique, -, -, -, hperm, hparts⟩ :=
    expiry_order [lasting 3 8, lasting 1 5, lasting 2 5]
  have hearliest : earliestExpiry [lasting 3 8, lasting 1 5, lasting 2 5] = some (.ofSeconds 5) :=
    by decide
  refine ⟨(hunique _ ⟨?_, ?_, ?_⟩).symm, ?_, ?_⟩
  · exact @List.perm_append_comm _ [lasting 1 5, lasting 2 5] [lasting 3 8]
  · simp only [EndsInOrder, List.pairwise_cons]
    decide
  · intro t
    by_cases hlate : (lasting 3 8).notAfter = t
    · rw [← hlate]
      rfl
    · simp only [endingAt, List.filter_cons, List.filter_nil, decide_eq_true_eq, if_neg hlate]
  · rw [← hearliest]
    exact hperm _ (@List.perm_append_comm _ [lasting 2 5] [lasting 3 8, lasting 1 5])
  · exact (hparts _ (List.Perm.refl _) _).mp hearliest

end Certificate

end AnchoredMetadata
