import AnchoredMetadata.Proofs.KeyMap
import AnchoredMetadata.Proofs.TrustStore
import Mathlib.Data.Finset.Card

/-!
# Stores after insertions

A store that was filled by insertions has each alias once, where it was first used, and under it
the certificate that was inserted last. The induction is on the insertions from the last one
backwards: every fact about the store is told from the same fact about the store before.
-/

namespace AnchoredMetadata.TrustStore

/-- A store after insertions into an empty one, each of a certificate under an alias. -/
def afterInsertions (name : String) (steps : List (String × Certificate)) : TrustStore :=
  steps.foldl (fun store step => store.insert step.1 step.2) (empty name)

variable {name label other : String} {c d : Certificate}
  {steps : List (String × Certificate)}

theorem afterInsertions_concat (name : String) (steps : List (String × Certificate))
    (label : String) (c : Certificate) :
    afterInsertions name (steps ++ [(label, c)]) = (afterInsertions name steps).insert label c := by
  simp [afterInsertions]

/-- An insertion changes what is found under its own alias, and under no other one. -/
theorem find?_insert (store : TrustStore) (label other : String) (c : Certificate) :
    (store.insert label c).find? other = if other = label then some c else store.find? other := by
  have hentries (es : List (String × Certificate)) :
      (insertEntry label c es).lookup other =
        if other = label then some c else es.lookup other := by
    induction es with
    | nil => simp [insertEntry, KeyMap.lookup_cons_entry]
    | cons e rest ih =>
      obtain ⟨first, d⟩ := e
      by_cases hfirst : first = label
      · subst hfirst
        by_cases hother : other = first <;> simp [insertEntry, KeyMap.lookup_cons_entry, hother]
      · simp only [insertEntry, hfirst, if_false, KeyMap.lookup_cons_entry, ih]
        by_cases hother : other = first
        · simp [hother, hfirst]
        · simp [hother]
  exact hentries store.entries

/-! ## Aliases -/

/-- A list has each of some labels once, in the order of their first uses. -/
structure FirstUses (labels used : List String) : Prop where
  /-- It has the labels that were used. -/
  mem_iff (label : String) : label ∈ labels ↔ label ∈ used
  /-- A label stands before those that were first used later. -/
  inOrder : labels.Pairwise fun a b => used.idxOf a < used.idxOf b

theorem FirstUses.nodup {labels used : List String} (h : FirstUses labels used) : labels.Nodup :=
  h.inOrder.imp fun hlt heq => by
    rw [heq] at hlt
    exact Nat.lt_irrefl _ hlt

/-- There are as many labels as different ones were used. -/
theorem FirstUses.length_eq {labels used : List String} (h : FirstUses labels used) :
    labels.length = used.toFinset.card := by
  have hsame : labels.toFinset = used.toFinset := by
    ext label
    simp [h.mem_iff]
  rw [← hsame, List.toFinset_card_of_nodup h.nodup]

/-- One more use changes the list only if the label is new; then it comes last. -/
theorem FirstUses.use {labels used : List String} (h : FirstUses labels used) (label : String) :
    FirstUses (if label ∈ labels then labels else labels ++ [label]) (used ++ [label]) := by
  have hkept : labels.Pairwise fun a b =>
      (used ++ [label]).idxOf a < (used ++ [label]).idxOf b := by
    refine h.inOrder.imp_of_mem ?_
    intro a b ha hb hlt
    rw [List.idxOf_append_of_mem ((h.mem_iff a).mp ha),
      List.idxOf_append_of_mem ((h.mem_iff b).mp hb)]
    exact hlt
  by_cases hlabel : label ∈ labels
  · simp only [hlabel, if_true]
    refine ⟨fun a => ?_, hkept⟩
    have hused := (h.mem_iff label).mp hlabel
    rw [h.mem_iff a, List.mem_append, List.mem_singleton]
    exact ⟨Or.inl, fun ha => ha.elim id fun heq => heq ▸ hused⟩
  · simp only [hlabel, if_false]
    refine ⟨fun a => by simp [h.mem_iff a], ?_⟩
    rw [List.pairwise_append]
    refine ⟨hkept, List.pairwise_singleton _ _, ?_⟩
    intro a ha b hb
    obtain rfl := List.mem_singleton.mp hb
    have hused := (h.mem_iff a).mp ha
    have hnew : b ∉ used := mt (h.mem_iff b).mpr hlabel
    have hbefore := List.idxOf_lt_length_of_mem hused
    rw [List.idxOf_append_of_mem hused, List.idxOf_append_of_notMem hnew]
    omega

theorem firstUses_aliases (name : String) (steps : List (String × Certificate)) :
    FirstUses (afterInsertions name steps).aliases (steps.map Prod.fst) := by
  induction steps using List.reverseRecOn with
  | nil => exact ⟨fun _ => Iff.rfl, List.Pairwise.nil⟩
  | append_singleton steps step ih =>
    rw [afterInsertions_concat, aliases_insert, List.map_append]
    exact ih.use step.1

/-! ## Certificates -/

/-- A certificate was inserted under an alias, and after it no other one was. -/
def LastInserted (steps : List (String × Certificate)) (label : String) (c : Certificate) : Prop :=
  ∃ before after, steps = before ++ (label, c) :: after ∧ label ∉ after.map Prod.fst

/-- The last of all insertions is the last one under its alias, and those before it count under
other aliases only. -/
theorem lastInserted_concat_iff :
    LastInserted (steps ++ [(label, c)]) other d ↔
      if other = label then d = c else LastInserted steps other d := by
  constructor
  · rintro ⟨before, after, hsteps, hafter⟩
    cases after using List.reverseRecOn with
    | nil =>
      obtain ⟨-, hlast⟩ := List.append_inj' hsteps rfl
      simp only [List.cons.injEq, Prod.mk.injEq, and_true] at hlast
      simp [hlast.1, hlast.2]
    | append_singleton after last =>
      rw [← List.cons_append, ← List.append_assoc] at hsteps
      obtain ⟨hearlier, hlast⟩ := List.append_inj' hsteps rfl
      obtain rfl := (List.cons.inj hlast).1
      simp only [List.map_append, List.map_cons, List.map_nil, List.mem_append,
        List.mem_singleton, not_or] at hafter
      rw [if_neg hafter.2]
      exact ⟨before, after, hearlier, hafter.1⟩
  · intro h
    by_cases hother : other = label
    · rw [if_pos hother] at h
      subst hother h
      exact ⟨steps, [], rfl, List.not_mem_nil⟩
    · rw [if_neg hother] at h
      obtain ⟨before, after, rfl, hafter⟩ := h
      refine ⟨before, after ++ [(label, c)], by simp, ?_⟩
      simpa [hother] using hafter

theorem find?_eq_some_iff :
    (afterInsertions name steps).find? label = some c ↔ LastInserted steps label c := by
  induction steps using List.reverseRecOn with
  | nil =>
    have hnone : ¬ LastInserted [] label c := by
      rintro ⟨before, after, hsteps, -⟩
      simp at hsteps
    simp [afterInsertions, hnone]
  | append_singleton steps step ih =>
    obtain ⟨last, d⟩ := step
    rw [afterInsertions_concat, find?_insert, lastInserted_concat_iff]
    by_cases hlabel : label = last
    · simp [hlabel, eq_comm]
    · simp only [hlabel, if_false, ih]

/-- Nothing is found under an alias that was not used. -/
theorem find?_eq_none_iff :
    (afterInsertions name steps).find? label = none ↔ label ∉ steps.map Prod.fst := by
  rw [← (firstUses_aliases name steps).mem_iff label, find?, List.lookup_eq_none_iff, aliases]
  simp only [bne_iff_ne, List.mem_map, not_exists, not_and]
  exact forall₂_congr fun e _ => ne_comm

/-- A store that was filled by insertions holds what is found under some alias. -/
theorem mem_certificates_iff :
    c ∈ (afterInsertions name steps).certificates ↔
      ∃ label, (afterInsertions name steps).find? label = some c := by
  have hnodup := (firstUses_aliases name steps).nodup
  simp only [certificates, find?, KeyMap.lookup_eq_some_iff_mem hnodup, List.mem_map, Prod.exists,
    exists_eq_right]

theorem contains_iff_find? :
    (afterInsertions name steps).contains c = true ↔
      ∃ label d, (afterInsertions name steps).find? label = some d ∧ (d == c) = true := by
  rw [contains, List.contains_iff_exists_mem_beq]
  constructor
  · rintro ⟨d, hd, hsame⟩
    obtain ⟨label, hfound⟩ := mem_certificates_iff.mp hd
    rw [Certificate.beq_def, beq_iff_eq] at hsame
    exact ⟨label, d, hfound, by rw [Certificate.beq_def, hsame, beq_self_eq_true]⟩
  · rintro ⟨label, d, hfound, hsame⟩
    rw [Certificate.beq_def, beq_iff_eq] at hsame
    exact ⟨d, mem_certificates_iff.mpr ⟨label, hfound⟩,
      by rw [Certificate.beq_def, hsame, beq_self_eq_true]⟩

/-- What is held after an insertion is the inserted certificate, or is held under another alias. A
certificate that was replaced is no longer held unless it is one of these. -/
theorem contains_insert_iff :
    ((afterInsertions name steps).insert label c).contains d = true ↔
      (c == d) = true ∨ ∃ other e, other ≠ label ∧
        (afterInsertions name steps).find? other = some e ∧ (e == d) = true := by
  rw [← afterInsertions_concat, contains_iff_find?]
  simp only [afterInsertions_concat, find?_insert]
  constructor
  · rintro ⟨other, e, hfound, hsame⟩
    by_cases hother : other = label
    · rw [if_pos hother, Option.some.injEq] at hfound
      exact Or.inl (hfound ▸ hsame)
    · rw [if_neg hother] at hfound
      exact Or.inr ⟨other, e, hother, hfound, hsame⟩
  · rintro (hsame | ⟨other, e, hother, hfound, hsame⟩)
    · exact ⟨label, c, if_pos rfl, hsame⟩
    · exact ⟨other, e, by rw [if_neg hother, hfound], hsame⟩

/-! ## Chains -/

theorem certificates_ofChain (name : String) (chain : List Certificate) :
    (ofChain name chain).certificates = chain := by
  rw [certificates, entries_ofChain, List.map_map]
  exact List.zipIdx_map_fst 0 chain

theorem aliases_ofChain (name : String) (chain : List Certificate) :
    (ofChain name chain).aliases = (List.range chain.length).map chainAlias := by
  have hpositions : List.range chain.length = chain.zipIdx.map Prod.snd := by
    rw [List.zipIdx_map_snd, List.range_eq_range']
  rw [aliases, entries_ofChain, hpositions, List.map_map, List.map_map]
  rfl

/-- Under the alias of a position stands the certificate at that position. -/
theorem find?_ofChain (name : String) (chain : List Certificate) (i : Nat) :
    (ofChain name chain).find? (chainAlias i) = chain[i]? := by
  have hnodup : ((ofChain name chain).entries.map Prod.fst).Nodup := by
    rw [← aliases, aliases_ofChain]
    exact List.nodup_range.map fun i j => chainAlias_inj.mp
  ext c
  rw [find?, KeyMap.lookup_eq_some_iff_mem hnodup, entries_ofChain, List.mem_map]
  constructor
  · rintro ⟨⟨d, j⟩, hmem, heq⟩
    obtain ⟨halias, rfl⟩ := Prod.mk.inj heq
    obtain rfl := chainAlias_inj.mp halias
    exact List.mem_zipIdx_iff_getElem?.mp hmem
  · intro hc
    exact ⟨(c, i), List.mem_zipIdx_iff_getElem?.mpr hc, rfl⟩

/-! ## Main statement -/

/-- A store is the map that insertions make: its aliases are the used ones in the order of their
first uses, and under each stands what was inserted there last. -/
structure IsMapOf (store : TrustStore) (steps : List (String × Certificate)) : Prop where
  /-- The aliases stand in the order of their first uses. -/
  aliases : FirstUses store.aliases (steps.map Prod.fst)
  /-- Under an alias stands what was inserted there last. -/
  found (label : String) (c : Certificate) :
    store.find? label = some c ↔ LastInserted steps label c
  /-- Under an alias that was not used stands nothing. -/
  absent (label : String) : store.find? label = none ↔ label ∉ steps.map Prod.fst
  /-- There are as many entries as different aliases. -/
  size : store.size = (steps.map Prod.fst).toFinset.card
  /-- The certificates that are held are those under the aliases now. -/
  held (c : Certificate) :
    store.contains c = true ↔ ∃ label d, store.find? label = some d ∧ (d == c) = true
  /-- One more insertion takes the place of what stood under its alias, which is held no longer
  unless it stands elsewhere too. -/
  replaced (label : String) (c d : Certificate) :
    (store.insert label c).contains d = true ↔
      (c == d) = true ∨ ∃ other e, other ≠ label ∧ store.find? other = some e ∧ (e == d) = true

/-- Whatever is inserted into an empty store, the store is the map that the insertions make. An
insertion changes nothing that is found under other aliases. A store made of a chain loses none of
its certificates, because different positions have different aliases. -/
theorem insertions_make_map :
    (∀ name steps, IsMapOf (afterInsertions name steps) steps) ∧
    (∀ (store : TrustStore) label other c, (store.insert label c).find? other =
      if other = label then some c else store.find? other) ∧
    (∀ i j, chainAlias i = chainAlias j ↔ i = j) ∧
    ∀ name chain, (ofChain name chain).certificates = chain ∧
      (ofChain name chain).aliases = (List.range chain.length).map chainAlias ∧
      ∀ i : Nat, (ofChain name chain).find? (chainAlias i) = chain[i]? := by
  refine ⟨fun name steps => ?_, find?_insert, fun i j => chainAlias_inj, fun name chain => ?_⟩
  · have huses := firstUses_aliases name steps
    have hsize : (afterInsertions name steps).size = (steps.map Prod.fst).toFinset.card := by
      rw [← huses.length_eq, size, TrustStore.aliases, List.length_map]
    exact ⟨huses, fun label c => find?_eq_some_iff, fun label => find?_eq_none_iff, hsize,
      fun c => contains_iff_find?, fun label c d => contains_insert_iff⟩
  · exact ⟨certificates_ofChain name chain, aliases_ofChain name chain, find?_ofChain name chain⟩

end AnchoredMetadata.TrustStore
