import AnchoredMetadata.Proofs.Repository.Refresh
import Mathlib.Data.List.Perm.Lattice

/-!
# Books about resolvers

The books of a repository say which of the resolvers made so far are held. They
are in order when the held ones were never destroyed and all others exactly
once. A plan takes books that are in order for what is published to books that
are in order for what it is going to publish and to release.
-/

namespace AnchoredMetadata.Repository

open Time

/-- The books after some acts: how many resolvers were made, and which of them are held. -/
structure Ledger (acts : List Act) (made : Nat) (held : List Nat) : Prop where
  /-- No resolver is held twice. -/
  nodup : held.Nodup
  /-- What is held was made. -/
  lt_made : ∀ n ∈ held, n < made
  /-- The resolvers received are those that were counted. -/
  makes_iff : ∀ n, Makes acts n ↔ n < made
  /-- What is held was not destroyed. -/
  intact : ∀ n ∈ held, destructions acts n = 0
  /-- What is not held any more was destroyed once. -/
  destroyed : ∀ n, n < made → n ∉ held → destructions acts n = 1
  /-- What was not made was not destroyed. -/
  unmade : ∀ n, made ≤ n → destructions acts n = 0

namespace Ledger

variable {acts later : List Act} {made n : Nat} {held other : List Nat}

/-- The first page of the books. -/
theorem empty : Ledger [] 0 [] := by
  constructor <;> simp

/-- No resolver is destroyed twice. -/
theorem destructions_le_one (h : Ledger acts made held) (n : Nat) : destructions acts n ≤ 1 := by
  by_cases hn : n < made
  · by_cases hheld : n ∈ held
    · have hzero := h.intact n hheld
      omega
    · exact Nat.le_of_eq (h.destroyed n hn hheld)
  · have hzero := h.unmade n (by omega)
    omega

/-- The order of what is held does not matter. -/
theorem perm (h : Ledger acts made held) (hp : held.Perm other) : Ledger acts made other where
  nodup := hp.nodup_iff.mp h.nodup
  lt_made n hn := h.lt_made n (hp.mem_iff.mpr hn)
  makes_iff := h.makes_iff
  intact n hn := h.intact n (hp.mem_iff.mpr hn)
  destroyed n hn hnot := h.destroyed n hn fun hin => hnot (hp.mem_iff.mp hin)
  unmade := h.unmade

/-- Acts that touch no resolver leave the books in order. -/
theorem quiet (h : Ledger acts made held) (later : List Act) (hm : ∀ n, ¬ Makes later n)
    (hd : ∀ n, destructions later n = 0) : Ledger (acts ++ later) made held where
  nodup := h.nodup
  lt_made := h.lt_made
  makes_iff n := by rw [makes_append, h.makes_iff]; simp only [hm n, or_false]
  intact n hn := by rw [destructions_append, h.intact n hn, hd]
  destroyed n hn hnot := by rw [destructions_append, h.destroyed n hn hnot, hd]
  unmade n hn := by rw [destructions_append, h.unmade n hn, hd]

/-- What is held may be destroyed, and is not held any more then. -/
theorem destroy (h : Ledger acts made (n :: held)) (hm : ∀ k, ¬ Makes later k)
    (hd : ∀ k, destructions later k = if k = n then 1 else 0) :
    Ledger (acts ++ later) made held := by
  obtain ⟨hnot, hnodup⟩ := List.nodup_cons.mp h.nodup
  have hn := h.lt_made n List.mem_cons_self
  refine ⟨hnodup, ?_, ?_, ?_, ?_, ?_⟩
  · intro k hk
    exact h.lt_made k (List.mem_cons_of_mem n hk)
  · intro k
    rw [makes_append, h.makes_iff]
    simp only [hm k, or_false]
  · intro k hk
    have hne : k ≠ n := fun he => hnot (he ▸ hk)
    rw [destructions_append, h.intact k (List.mem_cons_of_mem n hk), hd, if_neg hne]
  · intro k hk hout
    rw [destructions_append, hd]
    by_cases he : k = n
    · rw [if_pos he, he, h.intact n List.mem_cons_self]
    · have hcons : k ∉ n :: held := by simp [he, hout]
      rw [if_neg he, h.destroyed k hk hcons]
  · intro k hk
    have hne : k ≠ n := by omega
    rw [destructions_append, h.unmade k hk, hd, if_neg hne]

/-- Releasing an entry whose resolver is held leaves the books in order. -/
theorem release {e : Entry} (h : Ledger acts made (e.resolver :: held)) :
    Ledger (acts ++ Repository.release e) made held := by
  refine h.destroy ?_ ?_
  · intro k
    simp [Repository.release, Act.makes]
  · intro k
    simp [Repository.release, Act.destroys, eq_comm]

/-- The resolver that an entry was made with, if one was made. -/
def newOf (m : Making) : List Nat :=
  match m.result with
  | .ok e => [e.resolver]
  | .error _ => []

/-- A balanced making leaves the books in order: a new entry's resolver is held. -/
theorem making (h : Ledger acts made held) {m : Making} (hm : m.Balanced made) :
    Ledger (acts ++ m.acts) m.made (held ++ newOf m) := by
  have hle := hm.le_made
  have hmakes : ∀ n, Makes (acts ++ m.acts) n ↔ n < m.made := by
    intro n
    rw [makes_append, h.makes_iff, hm.makes_iff]
    omega
  unfold newOf
  cases hres : m.result with
  | error x =>
    dsimp only
    rw [List.append_nil]
    refine ⟨h.nodup, ?_, hmakes, ?_, ?_, ?_⟩
    · intro n hn
      exact Nat.lt_of_lt_of_le (h.lt_made n hn) hle
    · intro n hn
      have hlt := h.lt_made n hn
      rw [destructions_append, h.intact n hn, hm.of_error x hres, if_neg (by omega)]
    · intro n hn hout
      rw [destructions_append, hm.of_error x hres]
      by_cases hold : n < made
      · rw [h.destroyed n hold hout, if_neg (by omega)]
      · rw [h.unmade n (by omega), if_pos (by omega)]
    · intro n hn
      rw [destructions_append, h.unmade n (by omega), hm.of_error x hres, if_neg (by omega)]
  | ok e =>
    obtain ⟨he, hmade, hzero⟩ := hm.of_ok e hres
    have hfresh : made ∉ held := fun hin => Nat.lt_irrefl made (h.lt_made made hin)
    dsimp only
    rw [he, hmade]
    refine ⟨?_, ?_, hmade ▸ hmakes, ?_, ?_, ?_⟩
    · exact List.nodup_middle.mpr (List.nodup_cons.mpr (by simpa using ⟨hfresh, h.nodup⟩))
    · intro n hn
      rcases List.mem_append.mp hn with hn | hn
      · exact Nat.lt_succ_of_lt (h.lt_made n hn)
      · exact List.mem_singleton.mp hn ▸ Nat.lt_succ_self made
    · intro n hn
      rw [destructions_append, hzero]
      rcases List.mem_append.mp hn with hn | hn
      · rw [h.intact n hn]
      · rw [h.unmade n (Nat.le_of_eq (List.mem_singleton.mp hn).symm)]
    · intro n hn hout
      simp only [List.mem_append, List.mem_singleton, not_or] at hout
      rw [destructions_append, hzero, h.destroyed n (by omega) hout.1]
    · intro n hn
      rw [destructions_append, hzero, h.unmade n (by omega)]

end Ledger

/-! ## Books during a plan -/

section Plan

variable {s : Settings} {makers : Makers} {now : Instant} {previous : Snapshot}

/-- The resolvers of new entries. -/
def newResolvers (xs : List (String × Fate)) : List Nat :=
  (xs.filterMap fun x => x.2.new?).map Entry.resolver

/-- A fate leaves the books in order. -/
theorem Ledger.fate {acts : List Act} {made : Nat} {held : List Nat}
    (h : Ledger acts made held) (s : Settings) (makers : Makers) (now : Instant)
    (previous : Snapshot) (id : String) (anchor : Anchor) :
    let f := Repository.fate s makers now previous made id anchor
    Ledger (acts ++ f.acts id) (f.countAfter made)
      (held ++ (f.new?.map Entry.resolver).toList) := by
  intro f
  rcases fate_cases s makers now previous made id anchor with
    ⟨e, _, _, hf⟩ | ⟨_, notice, hnotice, hf⟩
  · unfold f
    rw [hf]
    simpa [Fate.acts, Fate.countAfter] using h
  · have hquiet : (∀ n, ¬ Makes notice n) ∧ ∀ n, destructions notice n = 0 := by
      rcases hnotice with rfl | rfl <;> simp [reporting, Act.makes, Act.destroys]
    have hledger := (h.quiet notice hquiet.1 hquiet.2).making
      (materialize_balanced s makers now made anchor)
    unfold f
    rw [hf, Fate.new?_made]
    dsimp only [Fate.acts, Fate.countAfter]
    unfold Ledger.newOf at hledger
    cases hres : (materialize s makers now made anchor).result with
    | ok e =>
      rw [hres] at hledger
      simpa only [List.append_nil, ← List.append_assoc, Except.toOption, Option.map_some,
        Option.toList_some] using hledger
    | error cause =>
      rw [hres] at hledger
      have hreported := hledger.quiet (reporting (.refused id cause))
        (by simp [reporting, Act.makes]) (by simp [reporting, Act.destroys])
      simpa only [← List.append_assoc, Except.toOption, Option.map_none, Option.toList_none]
        using hreported

/-- Fates leave the books in order. -/
theorem Ledger.fates {acts : List Act} {made : Nat} {held : List Nat}
    (h : Ledger acts made held) (s : Settings) (makers : Makers) (now : Instant)
    (previous : Snapshot) (xs : List (String × Anchor)) :
    let ys := Repository.fates s makers now previous made xs
    Ledger (acts ++ actsBy ys) (countAfterAll made ys) (held ++ newResolvers ys) := by
  induction xs generalizing acts made held with
  | nil => simpa [Repository.fates, actsBy, countAfterAll, newResolvers] using h
  | cons x rest ih =>
    have hstep := ih (h.fate s makers now previous x.1 x.2)
    dsimp only at hstep ⊢
    rw [Repository.fates, actsBy, List.flatMap_cons, ← List.append_assoc]
    have hnew : newResolvers (Repository.fates s makers now previous made (x :: rest)) =
        ((Repository.fate s makers now previous made x.1 x.2).new?.map Entry.resolver).toList ++
          newResolvers (Repository.fates s makers now previous
            ((Repository.fate s makers now previous made x.1 x.2).countAfter made) rest) := by
      rw [Repository.fates, newResolvers, List.filterMap_cons]
      cases (Repository.fate s makers now previous made x.1 x.2).new? <;> rfl
    rw [Repository.fates] at hnew
    rw [hnew, ← List.append_assoc]
    exact hstep

/-- Reports of duplicates touch no resolver. -/
theorem duplicates_untouched (seen : List String) (anchors : List Anchor) (n : Nat) :
    ¬ Makes (duplicates seen anchors) n ∧ destructions (duplicates seen anchors) n = 0 := by
  induction anchors generalizing seen with
  | nil => simp [duplicates]
  | cons a rest ih =>
    rw [duplicates]
    split
    · simpa [Act.makes, Act.destroys] using ih (a.entityId :: seen)
    · exact ih (a.entityId :: seen)

/-- What is published by fates is what they keep and what they make. -/
theorem perm_published? (xs : List (String × Fate)) :
    (xs.filterMap fun x => x.2.published?).Perm
      ((xs.filterMap fun x => x.2.kept?) ++ xs.filterMap fun x => x.2.new?) := by
  induction xs with
  | nil => exact List.Perm.refl _
  | cons x rest ih =>
    obtain ⟨id, f⟩ := x
    cases f with
    | kept e =>
      simpa [List.filterMap_cons] using ih
    | made notice m =>
      cases hres : m.result with
      | error x => simpa [List.filterMap_cons, hres, Except.toOption] using ih
      | ok e =>
        have hcons := (ih.cons e).trans List.perm_middle.symm
        simpa [List.filterMap_cons, hres, Except.toOption] using hcons

variable {r : Repository} {anchors : List Anchor}

/-- The values of what is published. -/
theorem values_plan : (r.plan makers now anchors).snapshot.entries.values =
    (r.fatesOf makers now anchors).filterMap fun x => x.2.published? := by
  rw [KeyMap.values, entries_plan]
  exact KeyMap.map_snd_filterMap Fate.published? _

/-- The pairs that are kept are those among the published ones that the plan finds kept. -/
theorem perm_kept (hr : ∀ e ∈ r.snapshot.entries.values, e.resolver < r.made) (makers : Makers)
    (now : Instant) (anchors : List Anchor) :
    ((r.fatesOf makers now anchors).filterMap fun x => x.2.kept?.map fun e => (x.1, e)).Perm
      (r.snapshot.entries.entries.filter fun x =>
        isKept (r.plan makers now anchors).snapshot.entries x.1 x.2) := by
  have hfates := r.nodup_fatesOf makers now anchors
  have hold : r.snapshot.entries.entries.Nodup := r.snapshot.entries.nodup_keys.of_map Prod.fst
  rw [List.perm_ext_iff_of_nodup (KeyMap.nodup_filterMap Fate.kept? hfates) (hold.filter _)]
  rintro ⟨id, e⟩
  rw [KeyMap.mem_filterMap_iff Fate.kept? hfates, lookup_kept?_iff, List.mem_filter,
    ← KeyMap.find?_eq_some_iff]
  constructor
  · rintro ⟨he, hlast⟩
    exact ⟨he, (isKept_plan_iff hr makers now anchors he).mpr hlast⟩
  · rintro ⟨he, hkept⟩
    exact ⟨he, (isKept_plan_iff hr makers now anchors he).mp hkept⟩

/-- What was published is kept or released. -/
theorem perm_kept_released (hr : ∀ e ∈ r.snapshot.entries.values, e.resolver < r.made)
    (makers : Makers) (now : Instant) (anchors : List Anchor) :
    ((r.fatesOf makers now anchors).filterMap (fun x => x.2.kept?) ++
      (r.plan makers now anchors).released).Perm r.snapshot.entries.values := by
  rw [← KeyMap.map_snd_filterMap Fate.kept?, released_plan]
  refine (((perm_kept hr makers now anchors).map Prod.snd).append_right _).trans ?_
  rw [← List.map_append]
  exact (List.filter_append_perm _ _).map Prod.snd

/-- What is going to be published and released is what was published and what is made. -/
theorem perm_plan (hr : ∀ e ∈ r.snapshot.entries.values, e.resolver < r.made) (makers : Makers)
    (now : Instant) (anchors : List Anchor) :
    (r.snapshot.entries.values ++
        (r.fatesOf makers now anchors).filterMap fun x => x.2.new?).Perm
      ((r.plan makers now anchors).snapshot.entries.values ++
        (r.plan makers now anchors).released) := by
  have hold := (perm_kept_released hr makers now anchors).symm
  rw [values_plan]
  refine (hold.append_right _).trans ?_
  refine List.Perm.trans ?_ ((perm_published? _).symm.append_right _)
  rw [List.append_assoc, List.append_assoc]
  exact List.perm_append_comm.append_left _

/-- A plan takes books that are in order for what is published to books that are in order for
what it is going to publish and to release. -/
theorem Ledger.plan {acts : List Act}
    (h : Ledger acts r.made (r.snapshot.entries.values.map Entry.resolver)) (makers : Makers)
    (now : Instant) (anchors : List Anchor) :
    let p := r.plan makers now anchors
    Ledger (acts ++ p.acts) p.made
      ((p.snapshot.entries.values ++ p.released).map Entry.resolver) := by
  have hr : ∀ e ∈ r.snapshot.entries.values, e.resolver < r.made :=
    fun e he => h.lt_made e.resolver (List.mem_map_of_mem he)
  have hduplicates := h.quiet (duplicates [] anchors)
    (fun n => (duplicates_untouched [] anchors n).1)
    (fun n => (duplicates_untouched [] anchors n).2)
  have hfates := hduplicates.fates r.settings makers now r.snapshot (current anchors).entries
  intro p
  rw [acts_plan, made_plan, ← List.append_assoc]
  refine hfates.perm ?_
  rw [newResolvers, ← List.map_append]
  exact (perm_plan hr makers now anchors).map Entry.resolver

end Plan

end AnchoredMetadata.Repository
