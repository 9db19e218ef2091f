import AnchoredMetadata.Proofs.Repository.Whole
import Mathlib.Data.List.Dedup

/-!
# The outcome of a refresh

What a refresh publishes, asks, makes, releases and counts follows from what was
published before and from the last anchor of every entity. An entry is kept
when its anchor is still the last one; for every other entity with an anchor
one entry is made, or the reason is listed why there is none.
-/

namespace AnchoredMetadata.Repository

open Time

/-! ## What is asked -/

/-- Whether an act asks a validator or a maker, or is the receipt of what was asked for. -/
def Act.asks : Act → Bool
  | .check _ | .client _ _ | .resolver _ | .made _ _ | .engine _ => true
  | .destroy _ | .report _ => false

/-- What is asked of validators and makers. -/
def asked (acts : List Act) : List Act := acts.filter Act.asks

@[simp] theorem asked_append (acts later : List Act) :
    asked (acts ++ later) = asked acts ++ asked later := List.filter_append ..

/-- Reports of duplicates ask nothing. -/
theorem asked_duplicates (seen : List String) (anchors : List Anchor) :
    asked (duplicates seen anchors) = [] := by
  induction anchors generalizing seen with
  | nil => rfl
  | cons a rest ih =>
    rw [duplicates]
    split
    · exact ih (a.entityId :: seen)
    · exact ih (a.entityId :: seen)

/-- Releases ask nothing. -/
theorem asked_releases (es : List Entry) : asked (es.flatMap release) = [] := by
  induction es with
  | nil => rfl
  | cons e rest ih => exact ih

/-- The making that a fate consists in. -/
def Fate.making? : Fate → Option Making
  | .kept _ => none
  | .made _ m => some m

section Fates

variable {s : Settings} {makers : Makers} {now : Instant} {previous : Snapshot} {made : Nat}

/-- A fate asks what its making asks. -/
theorem asked_acts_fate (id : String) (anchor : Anchor) :
    let f := fate s makers now previous made id anchor
    asked (f.acts id) = f.making?.toList.flatMap fun m => asked m.acts := by
  intro f
  rcases fate_cases s makers now previous made id anchor with
    ⟨e, _, _, hf⟩ | ⟨_, notice, hnotice, hf⟩
  · unfold f
    rw [hf]
    rfl
  · have hquiet : asked notice = [] := by
      rcases hnotice with rfl | rfl <;> rfl
    unfold f
    rw [hf]
    simp only [Fate.acts, Fate.making?, asked_append, hquiet, List.nil_append,
      Option.toList_some, List.flatMap_singleton]
    cases (materialize s makers now made anchor).result with
    | ok e => exact List.append_nil _
    | error cause => exact List.append_nil _

/-- Fates ask what their makings ask. -/
theorem asked_actsBy (xs : List (String × Anchor)) :
    let ys := fates s makers now previous made xs
    asked (actsBy ys) = (ys.filterMap fun y => y.2.making?).flatMap fun m => asked m.acts := by
  induction xs generalizing made with
  | nil => rfl
  | cons x rest ih =>
    intro ys
    unfold ys
    rw [fates, actsBy, List.flatMap_cons, asked_append, List.filterMap_cons, asked_acts_fate]
    have hrest := @ih ((fate s makers now previous made x.1 x.2).countAfter made)
    dsimp only at hrest ⊢
    rw [actsBy] at hrest
    rw [hrest]
    cases (fate s makers now previous made x.1 x.2).making? with
    | none => rfl
    | some m =>
      rw [Option.toList_some, List.flatMap_singleton, List.flatMap_cons]

end Fates

/-! ## What is to come of a refresh -/

/-- An entry is unchanged by anchors: the last one of its entity is its own. -/
def Unchanged (anchors : List Anchor) (id : String) (e : Entry) : Prop :=
  lastAnchor? anchors id = some e.anchor

instance (anchors : List Anchor) (id : String) (e : Entry) :
    Decidable (Unchanged anchors id e) :=
  inferInstanceAs (Decidable (lastAnchor? anchors id = some e.anchor))

/-- What a snapshot holds for some anchors, given what was published before. -/
structure Snapshot.Covers (s previous : Snapshot) (anchors : List Anchor) : Prop where
  /-- No entity has an entry and is listed as left out. -/
  disjoint : ∀ id, id ∈ s.entries.keys → id ∉ s.rejected.keys
  /-- The entities with anchors are those that have an entry or are listed. -/
  covered : ∀ id, (id ∈ s.entries.keys ∨ id ∈ s.rejected.keys) ↔
    id ∈ anchors.map Anchor.entityId
  /-- Every entry is of the last anchor of its entity. -/
  last : ∀ id e, s.entries.find? id = some e → Unchanged anchors id e
  /-- The entries kept are those that are unchanged. -/
  kept : ∀ id e, previous.entries.find? id = some e →
    (s.entries.find? id = some e ↔ Unchanged anchors id e)
  /-- An entry with a resolver that was published before is the one that it was. -/
  identity : ∀ id e other e', previous.entries.find? id = some e →
    s.entries.find? other = some e' → e'.resolver = e.resolver → other = id ∧ e' = e

/-- What a refresh makes: for every entity with anchors of which no entry is kept there is one
making, and nothing else is asked. -/
structure Outcome.Remakes (o : Outcome) (r : Repository) (makers : Makers) (now : Instant)
    (anchors : List Anchor) (makings : KeyMap Making) : Prop where
  /-- The makings are those for entities without an unchanged entry. -/
  keys : ∀ id, id ∈ makings.keys ↔ id ∈ anchors.map Anchor.entityId ∧
    ∀ e, r.snapshot.entries.find? id = some e → ¬ Unchanged anchors id e
  /-- Validators and makers are asked by them, one after another, and by nobody else. -/
  asked : asked o.acts = makings.values.flatMap fun m => Repository.asked m.acts
  /-- Each is of the last anchor, with numbers for resolvers that were not used before. -/
  fresh : ∀ id m, makings.find? id = some m → ∃ a n, lastAnchor? anchors id = some a ∧
    r.made ≤ n ∧ m = materialize r.settings makers now n a
  /-- An entry that is made is published. -/
  made : ∀ id m e, makings.find? id = some m → m.result = .ok e →
    o.repository.snapshot.entries.find? id = some e
  /-- An entry that cannot be made is listed with the reason. -/
  refused : ∀ id m cause, makings.find? id = some m → m.result = .error cause →
    o.repository.snapshot.rejected.find? id = some cause

/-- What a refresh releases: the entries that are not kept, each once and after all else. -/
structure Outcome.Releases (o : Outcome) (r : Repository) (anchors : List Anchor)
    (gone : KeyMap Entry) : Prop where
  /-- The entries released are those that are not unchanged. -/
  gone_iff : ∀ id e, gone.find? id = some e ↔
    r.snapshot.entries.find? id = some e ∧ ¬ Unchanged anchors id e
  /-- They are released one after another when all else is done. -/
  last : ∃ before, o.acts =
      before ++ gone.values.flatMap release ++ reporting (.refreshed o.summary) ∧
    ∀ n, n < r.made → destructions before n = 0
  /-- Of the resolvers published before, only theirs are destroyed, and once. -/
  destroyed : ∀ id e, r.snapshot.entries.find? id = some e →
    destructions o.acts e.resolver = if Unchanged anchors id e then 0 else 1

/-- What a refresh counts. -/
structure Outcome.Counts (o : Outcome) (r : Repository) (anchors : List Anchor) : Prop where
  /-- Entries are kept or made. -/
  entries : o.summary.reused + o.summary.materialized = o.repository.snapshot.entries.size
  /-- Those kept are the unchanged ones. -/
  reused : o.summary.reused =
    r.snapshot.entries.entries.countP fun x => decide (Unchanged anchors x.1 x.2)
  /-- Anchors left out are listed. -/
  rejected : o.summary.rejected = o.repository.snapshot.rejected.size
  /-- Every entity with anchors is counted once. -/
  total : o.summary.reused + o.summary.materialized + o.summary.rejected =
    (anchors.map Anchor.entityId).dedup.length
  /-- Entries published before are kept or released. -/
  released : o.summary.released + o.summary.reused = r.snapshot.entries.size
  /-- There were anchors. -/
  sourceError : o.summary.sourceError = none

/-! ## What comes of a refresh -/

section Refresh

variable {r : Repository} {makers : Makers} {now : Instant} {anchors : List Anchor}
  {acts : List Act}

/-- A fate publishes an entry or lists a refusal, and not both. -/
theorem Fate.isSome_refusal? (f : Fate) : f.refusal?.isSome = !f.published?.isSome := by
  cases f with
  | kept e => rfl
  | made notice m =>
    cases h : m.result <;> simp [h, Except.toOption, fault?]

/-- What is published is of the last anchor, and was published before or is made of it. -/
theorem find?_entries_plan_cases {id : String} {e : Entry}
    (h : (r.plan makers now anchors).snapshot.entries.find? id = some e) :
    Unchanged anchors id e ∧ (r.snapshot.entries.find? id = some e ∨
      ∃ n, r.made ≤ n ∧ (materialize r.settings makers now n e.anchor).result = .ok e) := by
  rw [find?_entries_plan] at h
  obtain ⟨f, hf, he⟩ := Option.bind_eq_some_iff.mp h
  cases ha : lastAnchor? anchors id with
  | none =>
    rw [lookup_fatesOf_of_none ha] at hf
    exact absurd hf (by simp)
  | some a =>
    obtain ⟨n, hn, hfate⟩ := r.lookup_fatesOf_of_some makers now ha
    obtain rfl := Option.some.inj (hf.symm.trans hfate)
    rcases fate_cases r.settings makers now r.snapshot n id a with
      ⟨x, hx, rfl, hkept⟩ | ⟨_, notice, _, hmade⟩
    · rw [hkept] at he
      obtain rfl : x = e := Option.some.inj he
      exact ⟨ha, Or.inl hx⟩
    · rw [hmade, Fate.published?_made] at he
      cases hres : (materialize r.settings makers now n a).result with
      | error cause =>
        rw [hres] at he
        exact absurd he (by simp [Except.toOption])
      | ok x =>
        rw [hres] at he
        obtain rfl : x = e := Option.some.inj he
        rw [Unchanged, anchor_of_materialize hres]
        exact ⟨ha, Or.inr ⟨n, hn, hres⟩⟩

/-- An unchanged entry is published as it was. -/
theorem find?_entries_plan_of_unchanged (makers : Makers) (now : Instant) {id : String} {e : Entry}
    (he : r.snapshot.entries.find? id = some e) (h : Unchanged anchors id e) :
    (r.plan makers now anchors).snapshot.entries.find? id = some e := by
  have hkept : ((r.fatesOf makers now anchors).lookup id).bind Fate.kept? = some e :=
    lookup_kept?_iff.mpr ⟨he, h⟩
  obtain ⟨f, hf, hfe⟩ := Option.bind_eq_some_iff.mp hkept
  rw [find?_entries_plan, hf, Option.bind_some, Fate.published?, hfe, Option.some_or]

/-- A plan covers its anchors. -/
theorem InOrder.covers_plan (h : r.InOrder acts) :
    (r.plan makers now anchors).snapshot.Covers r.snapshot anchors where
  disjoint := by
    intro id hid
    obtain ⟨e, he⟩ := KeyMap.mem_keys_iff.mp hid
    rw [← KeyMap.find?_eq_none_iff, find?_rejected_plan]
    rw [find?_entries_plan] at he
    obtain ⟨f, hf, hfe⟩ := Option.bind_eq_some_iff.mp he
    have hnone := f.isSome_refusal?
    rw [hfe] at hnone
    rw [hf, Option.bind_some]
    exact Option.not_isSome_iff_eq_none.mp (by simp [hnone])
  covered := by
    intro id
    rw [KeyMap.mem_keys_iff, KeyMap.mem_keys_iff, find?_entries_plan, find?_rejected_plan]
    cases ha : lastAnchor? anchors id with
    | none => simp [lookup_fatesOf_of_none ha, lastAnchor?_eq_none_iff.mp ha]
    | some a =>
      have hin : id ∈ anchors.map Anchor.entityId := mem_ids_of_lastAnchor? ha
      obtain ⟨n, _, hf⟩ := r.lookup_fatesOf_of_some makers now ha
      rw [hf, Option.bind_some, Option.bind_some, ← Option.isSome_iff_exists,
        ← Option.isSome_iff_exists, Fate.isSome_refusal?]
      cases (fate r.settings makers now r.snapshot n id a).published?.isSome <;> simp [hin]
  last := fun id e he => (find?_entries_plan_cases he).1
  kept := by
    intro id e he
    constructor
    · intro hnew
      exact (find?_entries_plan_cases hnew).1
    · intro hsame
      exact find?_entries_plan_of_unchanged makers now he hsame
  identity := by
    intro id e other e' he hnew hsame
    have hlt := h.lt_made e (KeyMap.mem_values_iff.mpr ⟨id, he⟩)
    rcases (find?_entries_plan_cases hnew).2 with hold | ⟨n, hn, hres⟩
    · have hnodup := Ledger.nodup h
      rw [KeyMap.values, List.map_map] at hnodup
      have hpair := List.inj_on_of_nodup_map hnodup (KeyMap.find?_eq_some_iff.mp hold)
        (KeyMap.find?_eq_some_iff.mp he) hsame
      exact Prod.mk.inj hpair
    · have hfresh := ((materialize_balanced r.settings makers now n e'.anchor).of_ok e' hres).1
      omega

/-! ### What is made -/

variable (r makers now anchors) in
/-- The makings among the fates of the current anchors. -/
def makingsOf : KeyMap Making :=
  .pick Fate.making? (r.fatesOf makers now anchors) (r.ascending_fatesOf makers now anchors)

theorem find?_makingsOf (id : String) : (r.makingsOf makers now anchors).find? id =
    ((r.fatesOf makers now anchors).lookup id).bind Fate.making? :=
  KeyMap.lookup_filterMap Fate.making? _ (r.nodup_fatesOf makers now anchors) id

/-- An entry is made for every entity with anchors of which no entry is unchanged. -/
theorem mem_keys_makingsOf {id : String} : id ∈ (r.makingsOf makers now anchors).keys ↔
    id ∈ anchors.map Anchor.entityId ∧
      ∀ e, r.snapshot.entries.find? id = some e → ¬ Unchanged anchors id e := by
  rw [KeyMap.mem_keys_iff, find?_makingsOf]
  cases ha : lastAnchor? anchors id with
  | none => simp [lookup_fatesOf_of_none ha, lastAnchor?_eq_none_iff.mp ha]
  | some a =>
    have hin : id ∈ anchors.map Anchor.entityId := mem_ids_of_lastAnchor? ha
    obtain ⟨n, _, hlookup⟩ := r.lookup_fatesOf_of_some makers now ha
    rw [hlookup, Option.bind_some]
    rcases fate_cases r.settings makers now r.snapshot n id a with
      ⟨x, hx, rfl, hf⟩ | ⟨hchanged, notice, _, hf⟩
    · rw [hf]
      constructor
      · rintro ⟨m, hm⟩
        exact absurd hm (by simp [Fate.making?])
      · rintro ⟨_, hnone⟩
        exact absurd ha (hnone x hx)
    · rw [hf]
      refine ⟨fun _ => ⟨hin, ?_⟩, fun _ => ⟨_, rfl⟩⟩
      intro e he hsame
      exact hchanged e he (Option.some.inj (ha.symm.trans hsame)).symm

/-- A making is of the last anchor, and the fate of its entity. -/
theorem find?_makingsOf_cases {id : String} {m : Making}
    (h : (r.makingsOf makers now anchors).find? id = some m) :
    ∃ a n notice, lastAnchor? anchors id = some a ∧ r.made ≤ n ∧
      m = materialize r.settings makers now n a ∧
      (r.fatesOf makers now anchors).lookup id = some (.made notice m) := by
  rw [find?_makingsOf] at h
  obtain ⟨f, hf, hm⟩ := Option.bind_eq_some_iff.mp h
  cases ha : lastAnchor? anchors id with
  | none =>
    rw [lookup_fatesOf_of_none ha] at hf
    exact absurd hf (by simp)
  | some a =>
    obtain ⟨n, hn, hfate⟩ := r.lookup_fatesOf_of_some makers now ha
    obtain rfl := Option.some.inj (hf.symm.trans hfate)
    rcases fate_cases r.settings makers now r.snapshot n id a with
      ⟨x, _, _, hkept⟩ | ⟨_, notice, _, hmade⟩
    · rw [hkept] at hm
      exact absurd hm (by simp [Fate.making?])
    · rw [hmade] at hm hf
      obtain rfl := Option.some.inj hm
      exact ⟨a, n, notice, rfl, hn, rfl, hf⟩

variable (r makers now anchors) in
/-- A refresh makes one entry for every entity with anchors of which none is unchanged. -/
theorem remakes_refresh : (r.refresh makers now (.ok anchors)).Remakes r makers now anchors
    (r.makingsOf makers now anchors) where
  keys := fun id => mem_keys_makingsOf
  asked := by
    have hvalues : (r.makingsOf makers now anchors).values =
        (r.fatesOf makers now anchors).filterMap fun x => x.2.making? :=
      KeyMap.map_snd_filterMap Fate.making? _
    rw [hvalues, fatesOf, ← asked_actsBy, ← fatesOf]
    simp only [refresh, asked_append, acts_plan, asked_duplicates, asked_releases,
      List.nil_append, List.append_nil]
    exact List.append_nil _
  fresh := by
    intro id m h
    obtain ⟨a, n, _, ha, hn, hm, _⟩ := find?_makingsOf_cases h
    exact ⟨a, n, ha, hn, hm⟩
  made := by
    intro id m e h hres
    obtain ⟨_, _, notice, _, _, _, hf⟩ := find?_makingsOf_cases h
    refine (r.find?_entries_plan makers now anchors id).trans ?_
    simp [hf, hres, Except.toOption]
  refused := by
    intro id m cause h hres
    obtain ⟨_, _, notice, _, _, _, hf⟩ := find?_makingsOf_cases h
    refine (r.find?_rejected_plan makers now anchors id).trans ?_
    simp [hf, hres, fault?]

/-! ### What is released -/

variable (r makers now anchors) in
/-- The entries that a plan releases, by entity. -/
def goneIn : KeyMap Entry :=
  r.snapshot.entries.restrict fun x =>
    !isKept (r.plan makers now anchors).snapshot.entries x.1 x.2

/-- A plan touches no resolver that was made before. -/
theorem InOrder.destructions_plan (h : r.InOrder acts) {n : Nat} (hn : n < r.made) :
    destructions (r.plan makers now anchors).acts n = 0 := by
  have hplan := Ledger.plan h makers now anchors
  dsimp only at hplan
  by_cases hheld : n ∈ r.snapshot.entries.values.map Entry.resolver
  · obtain ⟨e, he, rfl⟩ := List.mem_map.mp hheld
    have hstill := (perm_plan h.lt_made makers now anchors).mem_iff.mp (List.mem_append_left _ he)
    have hzero := hplan.intact e.resolver (List.mem_map_of_mem hstill)
    rw [destructions_append] at hzero
    omega
  · -- It was destroyed before, and nothing is destroyed twice.
    have hone := Ledger.destroyed h n hn hheld
    have hmost := hplan.destructions_le_one n
    rw [destructions_append] at hmost
    omega

/-- A refresh releases the entries that are not kept. -/
theorem InOrder.releases_refresh (h : r.InOrder acts) :
    (r.refresh makers now (.ok anchors)).Releases r anchors (r.goneIn makers now anchors) where
  gone_iff := by
    intro id e
    rw [goneIn, KeyMap.find?_restrict_eq_some_iff]
    refine and_congr_right fun he => ?_
    have hkept := isKept_plan_iff h.lt_made makers now anchors he
    rw [Bool.not_eq_true', ← Bool.not_eq_true, hkept, Unchanged]
  last := by
    refine ⟨(r.plan makers now anchors).acts, ?_, fun n hn => h.destructions_plan hn⟩
    have hvalues : (r.goneIn makers now anchors).values = (r.plan makers now anchors).released :=
      (r.released_plan makers now anchors).symm
    rw [hvalues]
    rfl
  destroyed := by
    intro id e he
    have hafter := h.refresh makers now (.ok anchors)
    have hin : e.resolver ∈ r.snapshot.entries.values.map Entry.resolver :=
      List.mem_map_of_mem (KeyMap.mem_values_iff.mpr ⟨id, he⟩)
    have hbefore := Ledger.intact h e.resolver hin
    by_cases hsame : Unchanged anchors id e
    · have hnew := find?_entries_plan_of_unchanged makers now he hsame
      have hzero := Ledger.intact hafter e.resolver
        (List.mem_map_of_mem (KeyMap.mem_values_iff.mpr ⟨id, hnew⟩))
      rw [destructions_append] at hzero
      rw [if_pos hsame]
      omega
    · -- Afterwards it is not held, so the books say that it was destroyed once.
      have hmade : e.resolver < (r.refresh makers now (.ok anchors)).repository.made := by
        apply (Ledger.makes_iff hafter e.resolver).mp
        rw [makes_append]
        exact Or.inl ((Ledger.makes_iff h e.resolver).mpr (Ledger.lt_made h e.resolver hin))
      have hout : e.resolver ∉ (r.refresh makers now
          (.ok anchors)).repository.snapshot.entries.values.map Entry.resolver := by
        intro hheld
        obtain ⟨e', he', hres⟩ := List.mem_map.mp hheld
        obtain ⟨other, hother⟩ := KeyMap.mem_values_iff.mp he'
        obtain ⟨rfl, rfl⟩ := h.covers_plan.identity id e other e' he hother hres
        exact hsame (find?_entries_plan_cases hother).1
      have hone := Ledger.destroyed hafter e.resolver hmade hout
      rw [destructions_append] at hone
      rw [if_neg hsame]
      omega

/-! ### What is counted -/

/-- Fates publish as many entries as they keep and make. -/
theorem countP_kept?_add_new? (xs : List (String × Fate)) :
    xs.countP (fun x => x.2.kept?.isSome) + xs.countP (fun x => x.2.new?.isSome) =
      xs.countP fun x => x.2.published?.isSome := by
  have hperm := (perm_published? xs).length_eq
  rw [List.length_append, List.length_filterMap_eq_countP, List.length_filterMap_eq_countP,
    List.length_filterMap_eq_countP] at hperm
  exact hperm.symm

/-- Every fate publishes an entry or lists a refusal. -/
theorem countP_published?_add_refusal? (xs : List (String × Fate)) :
    xs.countP (fun x => x.2.published?.isSome) + xs.countP (fun x => x.2.refusal?.isSome) =
      xs.length := by
  rw [List.length_eq_countP_add_countP fun x : String × Fate => x.2.published?.isSome]
  congr 1
  apply List.countP_congr
  intro x _
  simp [Fate.isSome_refusal?]

/-- As many keys are picked as values. -/
theorem size_of_entries_eq {α β : Type} {g : β → Option α} {xs : List (String × β)}
    {m : KeyMap α}
    (h : m.entries = xs.filterMap fun x => (g x.2).map fun a => (x.1, a)) :
    m.size = xs.countP fun x => (g x.2).isSome := by
  rw [KeyMap.size, h, List.length_filterMap_eq_countP]
  simp only [Option.isSome_map]

/-- There are as many fates as entities with anchors. -/
theorem length_fatesOf : (r.fatesOf makers now anchors).length =
    (anchors.map Anchor.entityId).dedup.length := by
  have hlength := congrArg List.length (r.map_fst_fatesOf makers now anchors)
  rw [List.length_map] at hlength
  rw [hlength]
  apply List.Perm.length_eq
  rw [List.perm_ext_iff_of_nodup (current anchors).nodup_keys (List.nodup_dedup _)]
  intro id
  rw [mem_keys_current, List.mem_dedup]

/-- The fates keep as many entries as are unchanged. -/
theorem InOrder.countP_kept? (h : r.InOrder acts) :
    (r.fatesOf makers now anchors).countP (fun x => x.2.kept?.isSome) =
      r.snapshot.entries.entries.countP fun x => decide (Unchanged anchors x.1 x.2) := by
  have hperm := (perm_kept h.lt_made makers now anchors).length_eq
  rw [List.length_filterMap_eq_countP, ← List.countP_eq_length_filter] at hperm
  simp only [Option.isSome_map] at hperm
  rw [hperm]
  apply List.countP_congr
  intro x hx
  rw [decide_eq_true_eq, Unchanged]
  exact isKept_plan_iff h.lt_made makers now anchors (KeyMap.find?_eq_some_iff.mpr hx)

/-- What a refresh counts is there. -/
theorem InOrder.counts_refresh (h : r.InOrder acts) :
    (r.refresh makers now (.ok anchors)).Counts r anchors := by
  have hsummary : (r.refresh makers now (.ok anchors)).summary =
      (r.plan makers now anchors).summary := rfl
  have hentries := size_of_entries_eq (r.entries_plan makers now anchors)
  have hrejected := size_of_entries_eq (r.rejected_plan makers now anchors)
  have hkept := countP_kept?_add_new? (r.fatesOf makers now anchors)
  have hlength := countP_published?_add_refusal? (r.fatesOf makers now anchors)
  rw [length_fatesOf] at hlength
  have hold := (perm_kept_released h.lt_made makers now anchors).length_eq
  rw [List.length_append, List.length_filterMap_eq_countP, KeyMap.length_values] at hold
  constructor <;> rw [hsummary, summary_plan]
  · exact hkept.trans hentries.symm
  · exact h.countP_kept?
  · exact hrejected.symm
  · dsimp only
    omega
  · dsimp only
    omega

end Refresh

/-- At every moment of a run, the outcome of a refresh with anchors follows from what is published
and from the last anchors: it covers them, makes what is not kept, releases what is not kept and
counts all this. A refresh without anchors reports this, and changes nothing. -/
theorem refresh_outcome {settings : Settings} {moves : List Move} {s : System}
    (h : (System.create settings).run moves = some s) (makers : Makers) (now : Instant)
    (anchors : List Anchor) :
    let r := s.repository
    let o := r.refresh makers now (.ok anchors)
    (o.repository.snapshot.Covers r.snapshot anchors ∧
      (∃ makings, o.Remakes r makers now anchors makings) ∧
      (∃ gone, o.Releases r anchors gone) ∧
      o.Counts r anchors ∧
      o.repository.snapshot.refreshedAt = some now) ∧
    ∀ cause, r.refresh makers now (.error cause) =
      ⟨r, { Summary.zero with sourceError := some cause.message },
        [.report (.sourceFailed cause)]⟩ := by
  obtain ⟨calls, hcalls⟩ := System.exists_afterAll_of_run h
  obtain ⟨acts, hacts⟩ := (inOrder_create settings).afterAll calls
  rw [← hcalls] at hacts
  intro r o
  refine ⟨⟨hacts.covers_plan, ?_, ?_, hacts.counts_refresh, rfl⟩, fun cause => rfl⟩
  · exact ⟨_, r.remakes_refresh makers now anchors⟩
  · exact ⟨_, hacts.releases_refresh⟩

/-- A refresh makes an entry. -/
def loading : List Move :=
  [.call .refresh, .acquire 0, .receive 0 (.ok [sampleAnchor]) .willing ⟨0⟩, .publish 0, .finish 0]

/-- A changed anchor of which no entry can be made leaves none, and the old one is released. -/
theorem failed_change_outcome :
    ∃ s, (System.create sampleSettings).run loading = some s ∧
      let makers := { Makers.willing with engine := fun _ => .error (.engine "no keys") }
      let o := s.repository.refresh makers ⟨1⟩ (.ok [renewedAnchor])
      o.summary.rejected = 1 ∧ o.repository.snapshot.entries.keys = [] ∧
        destructions o.acts 0 = 1 := by
  have hrun : ((System.create sampleSettings).run loading).map (fun s =>
      let makers := { Makers.willing with engine := fun _ => .error (.engine "no keys") }
      let o := s.repository.refresh makers ⟨1⟩ (.ok [renewedAnchor])
      ((s.repository.snapshot.entries.find? "shore").map fun e => (e.anchor, e.resolver),
        o.repository.snapshot.rejected.keys)) =
      some (some (sampleAnchor, 0), ["shore"]) := by decide +kernel
  obtain ⟨s, hs, hseen⟩ := Option.map_eq_some_iff.mp hrun
  obtain ⟨hold, hrejected⟩ := Prod.mk.inj hseen
  obtain ⟨e, he, heq⟩ := Option.map_eq_some_iff.mp hold
  obtain ⟨hanchor, hresolver⟩ := Prod.mk.inj heq
  refine ⟨s, hs, ?_⟩
  intro makers o
  obtain ⟨⟨hcovers, -, ⟨gone, hgone⟩, hcounts, -⟩, -⟩ :=
    refresh_outcome hs makers ⟨1⟩ [renewedAnchor]
  refine ⟨?_, ?_, ?_⟩
  · rw [hcounts.rejected, ← KeyMap.length_keys]
    exact congrArg List.length hrejected
  · rw [List.eq_nil_iff_forall_not_mem]
    intro id hid
    have hin := (hcovers.covered id).mp (Or.inl hid)
    have hout := hcovers.disjoint id hid
    rw [show o.repository.snapshot.rejected.keys = ["shore"] from hrejected] at hout
    exact hout hin
  · have hdestroyed := hgone.destroyed "shore" e he
    have hchanged : ¬ Unchanged [renewedAnchor] "shore" e := by
      rw [Unchanged, hanchor]
      decide
    rw [hresolver, if_neg hchanged] at hdestroyed
    exact hdestroyed

end AnchoredMetadata.Repository
