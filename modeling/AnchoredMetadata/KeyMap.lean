/-!
# Maps with texts as keys

The entries stand in ascending order of their keys, compared by code points,
so every key has one entry and the map has one form.
-/

namespace AnchoredMetadata

/-- A map from texts. -/
structure KeyMap (α : Type) where
  /-- The entries by ascending keys. -/
  entries : List (String × α)
  /-- Every key is greater than those before it. -/
  ascending : entries.Pairwise fun a b => a.1 < b.1

namespace KeyMap

variable {α β : Type}

/-- The map without entries. -/
def empty : KeyMap α := ⟨[], .nil⟩

/-- Put an entry in its place among others; one with the same key is replaced. -/
def insertEntry (key : String) (a : α) : List (String × α) → List (String × α)
  | [] => [(key, a)]
  | e :: rest =>
    if key < e.1 then (key, a) :: e :: rest
    else if key = e.1 then (key, a) :: rest
    else e :: insertEntry key a rest

/-- What an insertion leaves was inserted or was there before. -/
theorem mem_insertEntry {key : String} {a : α} {e : String × α} :
    {es : List (String × α)} → e ∈ insertEntry key a es → e = (key, a) ∨ e ∈ es
  | [], h => .inl (List.mem_singleton.mp h)
  | x :: rest, h => by
    unfold insertEntry at h
    split at h
    · simpa using h
    · split at h
      · rcases List.mem_cons.mp h with h | h
        · exact .inl h
        · exact .inr (List.mem_cons_of_mem _ h)
      · rcases List.mem_cons.mp h with h | h
        · exact .inr (h ▸ List.mem_cons_self)
        · rcases mem_insertEntry h with h | h
          · exact .inl h
          · exact .inr (List.mem_cons_of_mem _ h)

/-- Insertion keeps the order of keys. -/
theorem pairwise_insertEntry (key : String) (a : α) :
    {es : List (String × α)} → es.Pairwise (fun a b => a.1 < b.1) →
      (insertEntry key a es).Pairwise fun a b => a.1 < b.1
  | [], _ => by simp [insertEntry]
  | x :: rest, h => by
    obtain ⟨hx, hrest⟩ := List.pairwise_cons.mp h
    unfold insertEntry
    split
    · next hlt =>
      refine List.pairwise_cons.mpr ⟨?_, h⟩
      intro y hy
      rcases List.mem_cons.mp hy with rfl | hy
      · exact hlt
      · exact String.lt_trans hlt (hx y hy)
    · next hnlt =>
      split
      · next heq =>
        subst heq
        exact List.pairwise_cons.mpr ⟨hx, hrest⟩
      · next hne =>
        have hlt : x.1 < key := by
          rcases String.le_total key x.1 with hle | hle
          · exact absurd (String.le_antisymm hle (String.not_lt.mp hnlt)) hne
          · exact String.not_le.mp fun h' => hne (String.le_antisymm h' hle)
        refine List.pairwise_cons.mpr ⟨?_, pairwise_insertEntry key a hrest⟩
        intro y hy
        rcases mem_insertEntry hy with rfl | hy
        · exact hlt
        · exact hx y hy

/-- Put a value under a key, in the place of the one that is there. -/
def insert (m : KeyMap α) (key : String) (a : α) : KeyMap α :=
  ⟨insertEntry key a m.entries, pairwise_insertEntry key a m.ascending⟩

/-- The value under a key. -/
def find? (m : KeyMap α) (key : String) : Option α := m.entries.lookup key

/-- The keys in ascending order. -/
def keys (m : KeyMap α) : List String := m.entries.map Prod.fst

/-- The values by ascending keys. -/
def values (m : KeyMap α) : List α := m.entries.map Prod.snd

/-- The number of entries. -/
def size (m : KeyMap α) : Nat := m.entries.length

/-- Whether there is no entry. -/
def isEmpty (m : KeyMap α) : Bool := m.entries.isEmpty

@[simp] theorem find?_empty (key : String) : (empty : KeyMap α).find? key = none := rfl

/-- Looking up a key among entries with one more in front. -/
theorem lookup_cons_entry (k : String) (e : String × α) (es : List (String × α)) :
    (e :: es).lookup k = if k = e.1 then some e.2 else es.lookup k := by
  rw [List.lookup_cons]
  by_cases h : k = e.1
  · simp [h]
  · rw [if_neg h, beq_false_of_ne h]

/-- Looking up a key after an insertion into entries. -/
theorem lookup_insertEntry (key k : String) (a : α) (es : List (String × α)) :
    (insertEntry key a es).lookup k = if k = key then some a else es.lookup k := by
  induction es with
  | nil => rw [insertEntry, lookup_cons_entry]
  | cons e rest ih =>
    unfold insertEntry
    split
    · rw [lookup_cons_entry]
    · split
      · next heq => rw [lookup_cons_entry, lookup_cons_entry, heq]; split <;> rfl
      · next hne =>
        rw [lookup_cons_entry, lookup_cons_entry, ih]
        by_cases h : k = e.1
        · rw [if_pos h, if_pos h, if_neg fun hk => hne (hk.symm.trans h)]
        · rw [if_neg h, if_neg h]

/-- Looking up a key after an insertion. -/
theorem find?_insert (m : KeyMap α) (key k : String) (a : α) :
    (m.insert key a).find? k = if k = key then some a else m.find? k :=
  lookup_insertEntry key k a m.entries

end KeyMap

end AnchoredMetadata
