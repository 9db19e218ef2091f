import AnchoredMetadata.TrustStore

/-!
# Stores made of chains

Different positions of a chain have different aliases. So no certificate of a
chain replaces another one, and a store made of a chain holds exactly the chain.
-/

namespace AnchoredMetadata.TrustStore

/-- Different positions have different aliases. -/
theorem chainAlias_inj {i j : Nat} : chainAlias i = chainAlias j ↔ i = j := by
  refine ⟨?_, congrArg chainAlias⟩
  intro h
  have hdigits : i.repr.toList = j.repr.toList :=
    congrArg String.toList ((String.append_right_inj _).mp h)
  rw [Nat.toList_repr, Nat.toList_repr] at hdigits
  rw [← Nat.ofDigitChars_ten_toDigits (n := i), hdigits, Nat.ofDigitChars_ten_toDigits]

/-- A certificate under a new alias comes last. -/
theorem insertEntry_of_not_mem {label : String} {c : Certificate}
    {es : List (String × Certificate)} (h : label ∉ es.map Prod.fst) :
    insertEntry label c es = es ++ [(label, c)] := by
  induction es with
  | nil => rfl
  | cons e rest ih =>
    obtain ⟨other, d⟩ := e
    simp only [List.map_cons, List.mem_cons, not_or] at h
    rw [insertEntry, if_neg (Ne.symm h.1), ih h.2, List.cons_append]

/-- Certificates at later positions come after those at earlier ones. -/
theorem entries_foldl_insert (chain : List Certificate) (start : Nat) (store : TrustStore)
    (h : ∀ label ∈ store.aliases, ∃ i < start, label = chainAlias i) :
    ((chain.zipIdx start).foldl (fun store (c, i) => store.insert (chainAlias i) c)
        store).entries =
      store.entries ++ (chain.zipIdx start).map fun (c, i) => (chainAlias i, c) := by
  induction chain generalizing start store with
  | nil => rw [List.zipIdx_nil, List.foldl_nil, List.map_nil, List.append_nil]
  | cons c rest ih =>
    have hnew : chainAlias start ∉ store.aliases := by
      intro hin
      obtain ⟨i, hi, he⟩ := h _ hin
      rw [chainAlias_inj] at he
      omega
    have hend : (store.insert (chainAlias start) c).entries =
        store.entries ++ [(chainAlias start, c)] := insertEntry_of_not_mem hnew
    rw [List.zipIdx_cons, List.foldl_cons, List.map_cons, ih, hend, List.append_assoc]
    · rfl
    · intro label hlabel
      rw [aliases_insert, if_neg hnew, List.mem_append, List.mem_singleton] at hlabel
      rcases hlabel with hold | rfl
      · obtain ⟨i, hi, he⟩ := h label hold
        exact ⟨i, by omega, he⟩
      · exact ⟨start, by omega, rfl⟩

/-- A store made of a chain holds the chain in its order, each certificate under the alias of its
position. -/
theorem entries_ofChain (name : String) (chain : List Certificate) :
    (ofChain name chain).entries = chain.zipIdx.map fun (c, i) => (chainAlias i, c) :=
  entries_foldl_insert chain 0 (empty name) nofun

/-- A store made of a chain has the name that it was given. -/
theorem name_ofChain (name : String) (chain : List Certificate) :
    (ofChain name chain).name = name := by
  have hname (xs : List (Certificate × Nat)) (store : TrustStore) :
      (xs.foldl (fun store (c, i) => store.insert (chainAlias i) c) store).name = store.name := by
    induction xs generalizing store with
    | nil => rfl
    | cons x rest ih => exact ih _
  exact hname _ (empty name)

end AnchoredMetadata.TrustStore
