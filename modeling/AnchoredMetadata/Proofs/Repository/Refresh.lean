import AnchoredMetadata.Proofs.KeyMap
import AnchoredMetadata.Proofs.Repository.Making

/-!
# The fates of anchors in a refresh

A refresh goes through the last anchors of all entities in ascending order. Each
has one fate: its entry is kept, or one is made. All that is published and done
before can be read off the list of fates, since the maps of the draft grow at
their end only.
-/

namespace AnchoredMetadata.Repository

open Time

/-! ## The last anchor of an entity -/

/-- The last anchor of an entity. -/
def lastAnchor? (anchors : List Anchor) (id : String) : Option Anchor :=
  anchors.reverse.find? fun a => a.entityId = id

/-- The last anchor of an entity is of that entity. -/
theorem entityId_of_lastAnchor? {anchors : List Anchor} {id : String} {a : Anchor}
    (h : lastAnchor? anchors id = some a) : a.entityId = id := by
  have hid := List.find?_some h
  exact of_decide_eq_true hid

/-- An entity has a last anchor when it has one at all. -/
theorem lastAnchor?_eq_none_iff {anchors : List Anchor} {id : String} :
    lastAnchor? anchors id = none ↔ id ∉ anchors.map Anchor.entityId := by
  simp only [lastAnchor?, List.find?_eq_none, List.mem_reverse, decide_eq_true_eq, List.mem_map,
    not_exists, not_and]

/-- An entity with a last anchor has anchors. -/
theorem mem_ids_of_lastAnchor? {anchors : List Anchor} {id : String} {a : Anchor}
    (h : lastAnchor? anchors id = some a) : id ∈ anchors.map Anchor.entityId := by
  by_contra hout
  rw [lastAnchor?_eq_none_iff.mpr hout] at h
  exact absurd h (by simp)

/-- Later anchors go first. -/
theorem lastAnchor?_cons (a : Anchor) (anchors : List Anchor) (id : String) :
    lastAnchor? (a :: anchors) id =
      (lastAnchor? anchors id).or (if a.entityId = id then some a else none) := by
  rw [lastAnchor?, List.reverse_cons, List.find?_append]
  by_cases h : a.entityId = id <;> simp [lastAnchor?, h]

private theorem find?_foldl_insert (anchors : List Anchor) (m : KeyMap Anchor) (id : String) :
    (anchors.foldl (fun m a => m.insert a.entityId a) m).find? id =
      (lastAnchor? anchors id).or (m.find? id) := by
  induction anchors generalizing m with
  | nil => rfl
  | cons a rest ih =>
    rw [List.foldl_cons, ih, KeyMap.find?_insert, lastAnchor?_cons, Option.or_assoc]
    by_cases h : id = a.entityId
    · rw [if_pos h, if_pos h.symm, Option.some_or]
    · rw [if_neg h, if_neg (Ne.symm h), Option.none_or]

/-- The current anchors are the last ones. -/
theorem find?_current (anchors : List Anchor) (id : String) :
    (current anchors).find? id = lastAnchor? anchors id := by
  rw [current, find?_foldl_insert, KeyMap.find?_empty, Option.or_none]

/-- There is a current anchor for every entity that has one. -/
theorem mem_keys_current {anchors : List Anchor} {id : String} :
    id ∈ (current anchors).keys ↔ id ∈ anchors.map Anchor.entityId := by
  rw [← not_iff_not, ← KeyMap.find?_eq_none_iff, find?_current, lastAnchor?_eq_none_iff]

/-! ## Fates -/

/-- The error that a result is. -/
def fault? {ε α : Type} : Except ε α → Option ε
  | .ok _ => none
  | .error e => some e

/-- What becomes of an anchor in a refresh. -/
inductive Fate where
  /-- The entry of its entity is kept. -/
  | kept (entry : Entry)
  /-- An entry is made, after something was reported. -/
  | made (notice : List Act) (making : Making)

namespace Fate

/-- The entry that is kept. -/
def kept? : Fate → Option Entry
  | .kept e => some e
  | .made _ _ => none

/-- The entry that is made. -/
def new? : Fate → Option Entry
  | .kept _ => none
  | .made _ m =>
    match m.result with
    | .ok e => some e
    | .error _ => none

/-- The entry that is published. -/
def published? (f : Fate) : Option Entry := f.kept?.or f.new?

/-- Why no entry is published. -/
def refusal? : Fate → Option Refusal
  | .kept _ => none
  | .made _ m =>
    match m.result with
    | .ok _ => none
    | .error e => some e

/-- How many resolvers there were made, given how many before. -/
def countAfter (made : Nat) : Fate → Nat
  | .kept _ => made
  | .made _ m => m.made

/-- What is done outside. -/
def acts (id : String) : Fate → List Act
  | .kept _ => []
  | .made notice m =>
    notice ++ m.acts ++
      match m.result with
      | .ok _ => []
      | .error e => reporting (.refused id e)

@[simp] theorem kept?_kept (e : Entry) : (kept e).kept? = some e := rfl

@[simp] theorem kept?_made (notice : List Act) (m : Making) : (made notice m).kept? = none := rfl

@[simp] theorem new?_kept (e : Entry) : (kept e).new? = none := rfl

/-- What comes of a making is new. -/
@[simp] theorem new?_made (notice : List Act) (m : Making) :
    (made notice m).new? = m.result.toOption := by
  cases h : m.result with
  | ok e => simp [new?, h, Except.toOption]
  | error cause => simp [new?, h, Except.toOption]

@[simp] theorem published?_kept (e : Entry) : (kept e).published? = some e := rfl

/-- What comes of a making is published. -/
@[simp] theorem published?_made (notice : List Act) (m : Making) :
    (made notice m).published? = m.result.toOption := by
  rw [published?, kept?_made, Option.none_or, new?_made]

@[simp] theorem refusal?_kept (e : Entry) : (kept e).refusal? = none := rfl

/-- A making that fails is a refusal. -/
@[simp] theorem refusal?_made (notice : List Act) (m : Making) :
    (made notice m).refusal? = fault? m.result := by
  cases h : m.result with
  | ok e => simp [refusal?, h, fault?]
  | error cause => simp [refusal?, h, fault?]

end Fate

/-- The fate of an anchor, given what is published and how many resolvers were made so far. -/
def fate (s : Settings) (makers : Makers) (now : Instant) (previous : Snapshot) (made : Nat)
    (id : String) (anchor : Anchor) : Fate :=
  match previous.entries.find? id with
  | none => .made [] (materialize s makers now made anchor)
  | some entry =>
    if entry.anchor = anchor then .kept entry
    else .made (reporting (.changed id)) (materialize s makers now made anchor)

/-- Either the entry of the entity has this anchor and is kept, or no entry of it has, and one is
made; a change of anchor is reported before. -/
theorem fate_cases (s : Settings) (makers : Makers) (now : Instant) (previous : Snapshot)
    (made : Nat) (id : String) (anchor : Anchor) :
    (∃ e, previous.entries.find? id = some e ∧ e.anchor = anchor ∧
      fate s makers now previous made id anchor = .kept e) ∨
    (∀ e, previous.entries.find? id = some e → e.anchor ≠ anchor) ∧
      ∃ notice, (notice = [] ∨ notice = reporting (.changed id)) ∧
        fate s makers now previous made id anchor =
          .made notice (materialize s makers now made anchor) := by
  unfold fate
  cases previous.entries.find? id with
  | none =>
    refine Or.inr ⟨?_, [], Or.inl rfl, rfl⟩
    intro e he
    exact absurd he (by simp)
  | some e =>
    dsimp only
    by_cases he : e.anchor = anchor
    · rw [if_pos he]
      exact Or.inl ⟨e, rfl, he, rfl⟩
    · rw [if_neg he]
      refine Or.inr ⟨?_, reporting (.changed id), Or.inr rfl, rfl⟩
      intro x hx
      rw [← Option.some.inj hx]
      exact he

/-- The fates of anchors one after another. -/
def fates (s : Settings) (makers : Makers) (now : Instant) (previous : Snapshot) :
    Nat → List (String × Anchor) → List (String × Fate)
  | _, [] => []
  | made, (id, anchor) :: rest =>
    let f := fate s makers now previous made id anchor
    (id, f) :: fates s makers now previous (f.countAfter made) rest

/-- How many resolvers there were made after some fates, given how many before. -/
def countAfterAll (made : Nat) (xs : List (String × Fate)) : Nat :=
  xs.foldl (fun n x => x.2.countAfter n) made

/-- Enter a fate into a draft. -/
def Draft.settle (d : Draft) (id : String) (f : Fate) : Draft where
  entries := d.entries.insertIf id f.published?
  rejected := d.rejected.insertIf id f.refusal?
  summary := { d.summary with
    reused := d.summary.reused + f.kept?.isSome.toNat
    materialized := d.summary.materialized + f.new?.isSome.toNat
    rejected := d.summary.rejected + f.refusal?.isSome.toNat }
  made := f.countAfter d.made
  acts := d.acts ++ f.acts id

/-- Bringing in an anchor is entering its fate. -/
theorem Draft.bring_eq_settle (s : Settings) (makers : Makers) (now : Instant)
    (previous : Snapshot) (d : Draft) (id : String) (anchor : Anchor) :
    d.bring s makers now previous id anchor =
      d.settle id (fate s makers now previous d.made id anchor) := by
  have hadd (d : Draft) (notice : List Act) (m : Making) :
      { d with acts := d.acts ++ notice }.add id m = d.settle id (.made notice m) := by
    unfold Draft.add Draft.settle
    cases hm : m.result <;>
      simp [hm, KeyMap.insertIf, Except.toOption, fault?, Fate.countAfter, Fate.acts]
  unfold Draft.bring fate
  cases previous.entries.find? id with
  | none =>
    have h := hadd d [] (materialize s makers now d.made anchor)
    rw [List.append_nil] at h
    exact h
  | some entry =>
    dsimp only
    by_cases he : entry.anchor = anchor
    · simp [he, Draft.reuse, Draft.settle, KeyMap.insertIf, Fate.countAfter, Fate.acts]
    · rw [if_neg he, if_neg he]
      exact hadd d _ _

/-- Bringing in anchors is entering their fates. -/
theorem foldl_bring_eq_settle (s : Settings) (makers : Makers) (now : Instant)
    (previous : Snapshot) (d : Draft) (xs : List (String × Anchor)) :
    xs.foldl (fun d (id, anchor) => d.bring s makers now previous id anchor) d =
      (fates s makers now previous d.made xs).foldl (fun d x => d.settle x.1 x.2) d := by
  induction xs generalizing d with
  | nil => rfl
  | cons x rest ih =>
    obtain ⟨id, anchor⟩ := x
    rw [List.foldl_cons, ih, fates, List.foldl_cons]
    dsimp only
    rw [Draft.bring_eq_settle]
    rfl

/-! ## What a settled draft holds -/

/-- What is done outside for some fates. -/
def actsBy (xs : List (String × Fate)) : List Act := xs.flatMap fun x => x.2.acts x.1

variable (d : Draft) (xs : List (String × Fate))

/-- Settling does what the fates do. -/
theorem acts_foldl_settle :
    (xs.foldl (fun d x => d.settle x.1 x.2) d).acts = d.acts ++ actsBy xs := by
  induction xs generalizing d with
  | nil => rw [actsBy, List.flatMap_nil, List.append_nil, List.foldl_nil]
  | cons x rest ih =>
    rw [List.foldl_cons, ih, actsBy, actsBy, List.flatMap_cons, ← List.append_assoc]
    rfl

/-- Settling counts the resolvers that the fates make. -/
theorem made_foldl_settle :
    (xs.foldl (fun d x => d.settle x.1 x.2) d).made = countAfterAll d.made xs := by
  induction xs generalizing d with
  | nil => rfl
  | cons x rest ih =>
    rw [List.foldl_cons, ih]
    rfl

/-- Settling counts the fates of each kind. -/
theorem summary_foldl_settle :
    (xs.foldl (fun d x => d.settle x.1 x.2) d).summary =
      { d.summary with
        reused := d.summary.reused + xs.countP fun x => x.2.kept?.isSome
        materialized := d.summary.materialized + xs.countP fun x => x.2.new?.isSome
        rejected := d.summary.rejected + xs.countP fun x => x.2.refusal?.isSome } := by
  have hone (b : Bool) : b.toNat = if b then 1 else 0 := by cases b <;> rfl
  induction xs generalizing d with
  | nil => rfl
  | cons x rest ih =>
    rw [List.foldl_cons, ih]
    simp only [Draft.settle, List.countP_cons, hone, Summary.mk.injEq, and_true]
    omega

/-- The entries of the fates are put in. -/
theorem entries_foldl_settle :
    (xs.foldl (fun d x => d.settle x.1 x.2) d).entries =
      xs.foldl (fun m x => m.insertIf x.1 x.2.published?) d.entries := by
  induction xs generalizing d with
  | nil => rfl
  | cons x rest ih =>
    rw [List.foldl_cons, ih]
    rfl

/-- The refusals of the fates are put in. -/
theorem rejected_foldl_settle :
    (xs.foldl (fun d x => d.settle x.1 x.2) d).rejected =
      xs.foldl (fun m x => m.insertIf x.1 x.2.refusal?) d.rejected := by
  induction xs generalizing d with
  | nil => rfl
  | cons x rest ih =>
    rw [List.foldl_cons, ih]
    rfl

/-! ## The list of fates -/

section Fates

variable {s : Settings} {makers : Makers} {now : Instant} {previous : Snapshot} {made : Nat}

/-- The count of resolvers does not fall. -/
theorem le_countAfter_fate (id : String) (anchor : Anchor) :
    made ≤ (fate s makers now previous made id anchor).countAfter made := by
  rcases fate_cases s makers now previous made id anchor with
    ⟨e, _, _, hf⟩ | ⟨_, notice, _, hf⟩
  · rw [hf]
    exact Nat.le_refl made
  · rw [hf]
    exact (materialize_balanced s makers now made anchor).le_made

/-- The keys of the fates are those of the anchors. -/
theorem map_fst_fates (xs : List (String × Anchor)) :
    (fates s makers now previous made xs).map Prod.fst = xs.map Prod.fst := by
  induction xs generalizing made with
  | nil => rfl
  | cons x rest ih => rw [fates, List.map_cons, List.map_cons, ih]

/-- Every fate is that of its anchor at some count. -/
theorem mem_fates {xs : List (String × Anchor)} {x : String × Fate}
    (h : x ∈ fates s makers now previous made xs) :
    ∃ n a, made ≤ n ∧ (x.1, a) ∈ xs ∧ x.2 = fate s makers now previous n x.1 a := by
  induction xs generalizing made with
  | nil => exact absurd h List.not_mem_nil
  | cons y rest ih =>
    rcases List.mem_cons.mp h with rfl | h
    · exact ⟨made, y.2, Nat.le_refl made, List.mem_cons_self, rfl⟩
    · obtain ⟨n, a, hn, ha, hx⟩ := ih h
      exact ⟨n, a, Nat.le_trans (le_countAfter_fate y.1 y.2) hn, List.mem_cons_of_mem y ha, hx⟩

end Fates

/-! ## Reading a plan off the fates -/

section Plan

variable (r : Repository) (makers : Makers) (now : Instant) (anchors : List Anchor)

/-- The fates of the current anchors. -/
def fatesOf : List (String × Fate) :=
  fates r.settings makers now r.snapshot r.made (current anchors).entries

/-- There is one fate for every current anchor. -/
theorem map_fst_fatesOf : (r.fatesOf makers now anchors).map Prod.fst = (current anchors).keys :=
  map_fst_fates _

theorem nodup_fatesOf : ((r.fatesOf makers now anchors).map Prod.fst).Nodup := by
  rw [map_fst_fatesOf]
  exact KeyMap.nodup_keys _

theorem ascending_fatesOf : ((r.fatesOf makers now anchors).map Prod.fst).Pairwise (· < ·) := by
  rw [map_fst_fatesOf, KeyMap.keys, List.pairwise_map]
  exact (current anchors).ascending

/-- The draft in which all anchors are brought in. -/
private def settled : Draft :=
  (r.fatesOf makers now anchors).foldl (fun d x => d.settle x.1 x.2)
    ⟨.empty, .empty, .zero, r.made, duplicates [] anchors⟩

/-- A plan is read off the settled draft. -/
private theorem plan_eq : r.plan makers now anchors =
    let d := r.settled makers now anchors
    let released := (r.snapshot.entries.entries.filter fun (id, entry) =>
      !isKept d.entries id entry).map Prod.snd
    ⟨⟨d.entries, d.rejected, some now⟩, released,
      { d.summary with released := released.length }, d.made, d.acts⟩ := by
  unfold plan
  dsimp only
  rw [foldl_bring_eq_settle]
  rfl

/-- What is published are the entries of the fates. -/
theorem entries_plan : (r.plan makers now anchors).snapshot.entries.entries =
    (r.fatesOf makers now anchors).filterMap fun x => x.2.published?.map fun e => (x.1, e) := by
  rw [plan_eq]
  simp only [settled, entries_foldl_settle]
  exact KeyMap.entries_foldl_insertIf Fate.published? .empty _
    (r.ascending_fatesOf makers now anchors) fun e he => absurd he List.not_mem_nil

/-- What is listed as left out are the refusals of the fates. -/
theorem rejected_plan : (r.plan makers now anchors).snapshot.rejected.entries =
    (r.fatesOf makers now anchors).filterMap fun x => x.2.refusal?.map fun e => (x.1, e) := by
  rw [plan_eq]
  simp only [settled, rejected_foldl_settle]
  exact KeyMap.entries_foldl_insertIf Fate.refusal? .empty _
    (r.ascending_fatesOf makers now anchors) fun e he => absurd he List.not_mem_nil

/-- An entity has the entry of its fate. -/
theorem find?_entries_plan (id : String) :
    (r.plan makers now anchors).snapshot.entries.find? id =
      ((r.fatesOf makers now anchors).lookup id).bind Fate.published? := by
  rw [KeyMap.find?, entries_plan]
  exact KeyMap.lookup_filterMap Fate.published? _ (r.nodup_fatesOf makers now anchors) id

/-- An entity is listed with the refusal of its fate. -/
theorem find?_rejected_plan (id : String) :
    (r.plan makers now anchors).snapshot.rejected.find? id =
      ((r.fatesOf makers now anchors).lookup id).bind Fate.refusal? := by
  rw [KeyMap.find?, rejected_plan]
  exact KeyMap.lookup_filterMap Fate.refusal? _ (r.nodup_fatesOf makers now anchors) id

/-- The resolvers made are those of the fates. -/
theorem made_plan : (r.plan makers now anchors).made =
    countAfterAll r.made (r.fatesOf makers now anchors) := by
  rw [plan_eq]
  exact made_foldl_settle _ _

/-- What is done before publishing: duplicates are reported, then the fates take their course. -/
theorem acts_plan : (r.plan makers now anchors).acts =
    duplicates [] anchors ++ actsBy (r.fatesOf makers now anchors) := by
  rw [plan_eq]
  exact acts_foldl_settle _ _

/-- The counts are those of the fates, and of what is released. -/
theorem summary_plan : (r.plan makers now anchors).summary =
    { reused := (r.fatesOf makers now anchors).countP fun x => x.2.kept?.isSome
      materialized := (r.fatesOf makers now anchors).countP fun x => x.2.new?.isSome
      rejected := (r.fatesOf makers now anchors).countP fun x => x.2.refusal?.isSome
      released := (r.plan makers now anchors).released.length
      sourceError := none } := by
  rw [plan_eq]
  simp only [settled, summary_foldl_settle, Summary.zero, Nat.zero_add]

/-- What is released is what is not kept. -/
theorem released_plan : (r.plan makers now anchors).released =
    (r.snapshot.entries.entries.filter fun x =>
      !isKept (r.plan makers now anchors).snapshot.entries x.1 x.2).map Prod.snd := by
  rw [plan_eq]

variable {r makers now anchors}

/-- The fate of an entity with anchors is that of the last one. -/
theorem lookup_fatesOf_of_some (r : Repository) (makers : Makers) (now : Instant) {id : String}
    {a : Anchor} (h : lastAnchor? anchors id = some a) :
    ∃ n, r.made ≤ n ∧ (r.fatesOf makers now anchors).lookup id =
      some (fate r.settings makers now r.snapshot n id a) := by
  rw [← find?_current] at h
  have hid : id ∈ (r.fatesOf makers now anchors).map Prod.fst := by
    rw [map_fst_fatesOf]
    exact KeyMap.mem_keys_iff.mpr ⟨a, h⟩
  obtain ⟨x, hx, rfl⟩ := List.mem_map.mp hid
  obtain ⟨n, b, hn, hb, hf⟩ := mem_fates hx
  obtain rfl : a = b := Option.some.inj (h.symm.trans (KeyMap.find?_eq_some_iff.mpr hb))
  refine ⟨n, hn, ?_⟩
  rw [KeyMap.lookup_eq_some_iff_mem (r.nodup_fatesOf makers now anchors), ← hf]
  exact hx

/-- An entity without anchors has no fate. -/
theorem lookup_fatesOf_of_none {id : String} (h : lastAnchor? anchors id = none) :
    (r.fatesOf makers now anchors).lookup id = none := by
  rw [← find?_current, KeyMap.find?_eq_none_iff] at h
  rw [List.lookup_eq_none_iff]
  intro x hx
  have hne : id ≠ x.1 := by
    rintro rfl
    apply h
    rw [← r.map_fst_fatesOf makers now anchors]
    exact List.mem_map_of_mem hx
  simpa using hne

/-- The entries kept are those published before whose anchor is still the last one. -/
theorem lookup_kept?_iff {id : String} {e : Entry} :
    ((r.fatesOf makers now anchors).lookup id).bind Fate.kept? = some e ↔
      r.snapshot.entries.find? id = some e ∧ lastAnchor? anchors id = some e.anchor := by
  cases ha : lastAnchor? anchors id with
  | none => simp [lookup_fatesOf_of_none ha]
  | some a =>
    obtain ⟨n, _, hlookup⟩ := r.lookup_fatesOf_of_some makers now ha
    rw [hlookup, Option.bind_some]
    rcases fate_cases r.settings makers now r.snapshot n id a with
      ⟨x, hx, rfl, hf⟩ | ⟨hchanged, notice, _, hf⟩
    · rw [hf, Fate.kept?_kept, hx]
      constructor
      · intro he
        obtain rfl := Option.some.inj he
        exact ⟨rfl, rfl⟩
      · exact And.left
    · rw [hf, Fate.kept?_made]
      constructor
      · intro he
        exact absurd he (by simp)
      · rintro ⟨he, hsame⟩
        exact absurd (Option.some.inj hsame).symm (hchanged e he)

/-- An entry is kept as it is when its anchor is still the last one. -/
theorem isKept_plan_iff (hr : ∀ e ∈ r.snapshot.entries.values, e.resolver < r.made)
    (makers : Makers) (now : Instant) (anchors : List Anchor) {id : String} {e : Entry}
    (he : r.snapshot.entries.find? id = some e) :
    isKept (r.plan makers now anchors).snapshot.entries id e = true ↔
      lastAnchor? anchors id = some e.anchor := by
  have hlt := hr e (KeyMap.mem_values_iff.mpr ⟨id, he⟩)
  unfold isKept
  rw [find?_entries_plan]
  cases ha : lastAnchor? anchors id with
  | none => simp [lookup_fatesOf_of_none ha]
  | some a =>
    obtain ⟨n, hn, hlookup⟩ := r.lookup_fatesOf_of_some makers now ha
    rw [hlookup, Option.bind_some]
    rcases fate_cases r.settings makers now r.snapshot n id a with
      ⟨x, hx, rfl, hf⟩ | ⟨hchanged, notice, _, hf⟩
    · obtain rfl := Option.some.inj (hx.symm.trans he)
      simp [hf]
    · have hne := Ne.symm (hchanged e he)
      cases hres : (materialize r.settings makers now n a).result with
      | error cause => simp [hf, hres, Except.toOption, hne]
      | ok e' =>
        -- The new resolver has a number that no published one has.
        have hnew := ((materialize_balanced r.settings makers now n a).of_ok e' hres).1
        have hother : e'.resolver ≠ e.resolver := by omega
        simp [hf, hres, Except.toOption, hne, hother]

end Plan

end AnchoredMetadata.Repository
