import AnchoredMetadata.KeyMap
import Mathlib.Data.List.Nodup

/-!
# Looking up in maps with texts as keys

The ascending order of keys makes looking up and standing among the entries the
same thing. A key beyond all others is inserted at the end, so a map that is
filled in ascending order lists its entries in the order of insertion.
-/

namespace AnchoredMetadata.KeyMap

variable {α β : Type}

/-- No key stands twice. -/
theorem nodup_keys (m : KeyMap α) : m.keys.Nodup := by
  rw [KeyMap.keys, List.Nodup, List.pairwise_map]
  refine m.ascending.imp ?_
  intro a b hab he
  exact String.lt_irrefl b.1 (he ▸ hab)

/-- Among entries of which no key stands twice, what stands there is found. -/
theorem lookup_eq_some_iff_mem {es : List (String × α)} (h : (es.map Prod.fst).Nodup)
    {key : String} {a : α} : es.lookup key = some a ↔ (key, a) ∈ es := by
  induction es with
  | nil => simp only [List.lookup_nil, reduceCtorEq, List.not_mem_nil]
  | cons e rest ih =>
    obtain ⟨hnot, hrest⟩ := List.nodup_cons.mp h
    rw [lookup_cons_entry, List.mem_cons]
    by_cases hk : key = e.1
    · subst hk
      have habsent : (e.1, a) ∉ rest := fun hm => hnot (List.mem_map.mpr ⟨_, hm, rfl⟩)
      rw [if_pos rfl, Option.some.injEq, Prod.ext_iff]
      simp only [true_and, habsent, or_false]
      exact eq_comm
    · have hne : (key, a) ≠ e := fun he => hk (congrArg Prod.fst he)
      rw [if_neg hk, ih hrest]
      simp only [hne, false_or]

/-- A value is found under a key when the two are an entry. -/
theorem find?_eq_some_iff {m : KeyMap α} {key : String} {a : α} :
    m.find? key = some a ↔ (key, a) ∈ m.entries :=
  lookup_eq_some_iff_mem m.nodup_keys

/-- A key is one of a map's when something is found under it. -/
theorem mem_keys_iff {m : KeyMap α} {key : String} :
    key ∈ m.keys ↔ ∃ a, m.find? key = some a := by
  simp only [find?_eq_some_iff, KeyMap.keys, List.mem_map, Prod.exists, exists_and_right,
    exists_eq_right]

/-- Nothing is found under what is not a key. -/
theorem find?_eq_none_iff {m : KeyMap α} {key : String} :
    m.find? key = none ↔ key ∉ m.keys := by
  rw [mem_keys_iff, Option.eq_none_iff_forall_ne_some]
  simp only [not_exists, ne_eq]

/-- A value is one of a map's when it is found under some key. -/
theorem mem_values_iff {m : KeyMap α} {a : α} :
    a ∈ m.values ↔ ∃ key, m.find? key = some a := by
  simp only [find?_eq_some_iff, KeyMap.values, List.mem_map, Prod.exists, exists_eq_right]

/-- There are as many keys as entries. -/
theorem length_keys (m : KeyMap α) : m.keys.length = m.size := List.length_map ..

/-- There are as many values as entries. -/
theorem length_values (m : KeyMap α) : m.values.length = m.size := List.length_map ..

/-- What is greater than every key comes last. -/
theorem insertEntry_of_forall_lt {key : String} {a : α} {es : List (String × α)}
    (h : ∀ e ∈ es, e.1 < key) : insertEntry key a es = es ++ [(key, a)] := by
  induction es with
  | nil => rfl
  | cons e rest ih =>
    have hlt := h e List.mem_cons_self
    have hnlt : ¬ key < e.1 := fun h' => String.lt_irrefl key (String.lt_trans h' hlt)
    have hne : key ≠ e.1 := fun he => String.lt_irrefl e.1 (he ▸ hlt)
    rw [insertEntry, if_neg hnlt, if_neg hne,
      ih fun x hx => h x (List.mem_cons_of_mem e hx), List.cons_append]

/-- Inserting beyond every key puts the entry at the end. -/
theorem entries_insert_of_forall_lt {m : KeyMap α} {key : String} {a : α}
    (h : ∀ e ∈ m.entries, e.1 < key) : (m.insert key a).entries = m.entries ++ [(key, a)] :=
  insertEntry_of_forall_lt h

/-- Put a value under a key if there is one. -/
def insertIf (m : KeyMap α) (key : String) : Option α → KeyMap α
  | some a => m.insert key a
  | none => m

/-- What is put in by ascending keys beyond all others is listed at the end in this order. -/
theorem entries_foldl_insertIf (g : β → Option α) (m : KeyMap α) (xs : List (String × β))
    (hxs : (xs.map Prod.fst).Pairwise (· < ·)) (hm : ∀ e ∈ m.entries, ∀ x ∈ xs, e.1 < x.1) :
    (xs.foldl (fun m x => m.insertIf x.1 (g x.2)) m).entries =
      m.entries ++ xs.filterMap fun x => (g x.2).map fun a => (x.1, a) := by
  induction xs generalizing m with
  | nil => rw [List.filterMap_nil, List.append_nil, List.foldl_nil]
  | cons x rest ih =>
    obtain ⟨hx, hrest⟩ := List.pairwise_cons.mp hxs
    have hlater : ∀ y ∈ rest, x.1 < y.1 := fun y hy => hx y.1 (List.mem_map_of_mem hy)
    have hbefore : ∀ e ∈ m.entries, ∀ y ∈ rest, e.1 < y.1 :=
      fun e he y hy => hm e he y (List.mem_cons_of_mem x hy)
    rw [List.foldl_cons, List.filterMap_cons]
    cases hg : g x.2 with
    | none => exact ih m hrest hbefore
    | some a =>
      have hend : (m.insert x.1 a).entries = m.entries ++ [(x.1, a)] :=
        entries_insert_of_forall_lt fun e he => hm e he x List.mem_cons_self
      have hin : ∀ e ∈ (m.insert x.1 a).entries, ∀ y ∈ rest, e.1 < y.1 := by
        intro e he
        rw [hend, List.mem_append, List.mem_singleton] at he
        rcases he with he | rfl
        · exact hbefore e he
        · exact hlater
      refine (ih (m.insert x.1 a) hrest hin).trans ?_
      rw [hend, List.append_assoc]
      rfl

/-- Looking up a key among the values that some function picks. -/
theorem lookup_filterMap (g : β → Option α) (xs : List (String × β))
    (hxs : (xs.map Prod.fst).Nodup) (key : String) :
    (xs.filterMap fun x => (g x.2).map fun a => (x.1, a)).lookup key =
      (xs.lookup key).bind g := by
  induction xs with
  | nil => rfl
  | cons x rest ih =>
    obtain ⟨hx, hrest⟩ := List.nodup_cons.mp hxs
    rw [List.filterMap_cons, lookup_cons_entry]
    by_cases hk : key = x.1
    · have hnone : rest.lookup key = none := by
        rw [List.lookup_eq_none_iff]
        intro y hy
        have hne : x.1 ≠ y.1 := fun he => hx (he ▸ List.mem_map_of_mem hy)
        simpa [hk] using hne
      cases hg : g x.2 with
      | none =>
        have hkey := ih hrest
        rw [hnone] at hkey
        simpa [hk, hg] using hkey
      | some a => simp [hk, hg]
    · cases hg : g x.2 with
      | none => simpa [hk] using ih hrest
      | some a => simpa [lookup_cons_entry, hk] using ih hrest

/-- What some function picks among values stands under the key of what it was picked from. -/
theorem mem_filterMap_iff (g : β → Option α) {xs : List (String × β)}
    (hxs : (xs.map Prod.fst).Nodup) {key : String} {a : α} :
    (key, a) ∈ (xs.filterMap fun x => (g x.2).map fun a => (x.1, a)) ↔
      (xs.lookup key).bind g = some a := by
  rw [List.mem_filterMap, Option.bind_eq_some_iff]
  constructor
  · rintro ⟨⟨k, b⟩, hb, h⟩
    obtain ⟨a', ha, heq⟩ := Option.map_eq_some_iff.mp h
    obtain ⟨rfl, rfl⟩ := Prod.mk.inj heq
    exact ⟨b, (lookup_eq_some_iff_mem hxs).mpr hb, ha⟩
  · rintro ⟨b, hb, ha⟩
    exact ⟨(key, b), (lookup_eq_some_iff_mem hxs).mp hb, Option.map_eq_some_iff.mpr ⟨a, ha, rfl⟩⟩

/-- The keys of what some function picks stand in the same order. -/
theorem keys_filterMap_sublist (g : β → Option α) (xs : List (String × β)) :
    ((xs.filterMap fun x => (g x.2).map fun a => (x.1, a)).map Prod.fst).Sublist
      (xs.map Prod.fst) := by
  induction xs with
  | nil => exact List.Sublist.slnil
  | cons x rest ih =>
    rw [List.filterMap_cons, List.map_cons]
    cases g x.2 with
    | none => exact ih.cons x.1
    | some a => exact ih.cons_cons x.1

/-- Nothing is picked twice from entries of which no key stands twice. -/
theorem nodup_filterMap (g : β → Option α) {xs : List (String × β)}
    (hxs : (xs.map Prod.fst).Nodup) :
    (xs.filterMap fun x => (g x.2).map fun a => (x.1, a)).Nodup :=
  (hxs.sublist (keys_filterMap_sublist g xs)).of_map Prod.fst

/-- The values of what some function picks. -/
theorem map_snd_filterMap (g : β → Option α) (xs : List (String × β)) :
    (xs.filterMap fun x => (g x.2).map fun a => (x.1, a)).map Prod.snd =
      xs.filterMap fun x => g x.2 := by
  rw [List.map_filterMap]
  congr 1
  funext x
  cases g x.2 <;> rfl

/-- The map of what some function picks among values with ascending keys. -/
def pick (g : β → Option α) (xs : List (String × β))
    (hxs : (xs.map Prod.fst).Pairwise (· < ·)) : KeyMap α where
  entries := xs.filterMap fun x => (g x.2).map fun a => (x.1, a)
  ascending := List.pairwise_map.mp (hxs.sublist (keys_filterMap_sublist g xs))

/-- The entries of a map that pass a test. -/
def restrict (m : KeyMap α) (p : String × α → Bool) : KeyMap α where
  entries := m.entries.filter p
  ascending := m.ascending.sublist List.filter_sublist

/-- What is found among entries that pass a test is found in the map and passes. -/
theorem find?_restrict_eq_some_iff {m : KeyMap α} {p : String × α → Bool} {key : String} {a : α} :
    (m.restrict p).find? key = some a ↔ m.find? key = some a ∧ p (key, a) = true := by
  rw [find?_eq_some_iff, find?_eq_some_iff]
  exact List.mem_filter

end AnchoredMetadata.KeyMap
