import AnchoredMetadata.Time.Instant

/-!
# The earliest of some instants

Looking for earlier instants one after another finds the earliest of them all.
-/

namespace AnchoredMetadata.Time

/-- Instants that are not after each other are the same. -/
theorem Instant.le_antisymm {a b : Instant} (hab : a ≤ b) (hba : b ≤ a) : a = b := by
  obtain ⟨m⟩ := a
  obtain ⟨n⟩ := b
  exact congrArg Instant.mk (Int.le_antisymm hab hba)

/-- The earlier of two instants is one of them. -/
theorem Instant.earlier_eq_or (a b : Instant) : a.earlier b = a ∨ a.earlier b = b := by
  unfold Instant.earlier
  by_cases h : b < a
  · exact Or.inr (if_pos h)
  · exact Or.inl (if_neg h)

/-- The earlier of two instants is after neither. -/
theorem Instant.earlier_le (a b : Instant) : a.earlier b ≤ a ∧ a.earlier b ≤ b := by
  unfold Instant.earlier
  by_cases h : b < a
  · rw [if_pos h]
    simp only [Instant.le_def, Instant.lt_def] at *
    omega
  · rw [if_neg h]
    simp only [Instant.le_def, Instant.lt_def] at *
    omega

/-- Looking for earlier instants finds one of those given, and none of them comes before it. -/
theorem Instant.foldl_earlier (t : Instant) (ts : List Instant) :
    ts.foldl earlier t ∈ t :: ts ∧ ∀ u ∈ t :: ts, ts.foldl earlier t ≤ u := by
  induction ts generalizing t with
  | nil => exact ⟨List.mem_cons_self, List.forall_mem_singleton.mpr (Int.le_refl _)⟩
  | cons s rest ih =>
    obtain ⟨hfound, hleast⟩ := ih (t.earlier s)
    obtain ⟨hfirst, hrest⟩ := List.forall_mem_cons.mp hleast
    obtain ⟨hleft, hright⟩ := t.earlier_le s
    rw [List.foldl_cons]
    constructor
    · rcases List.mem_cons.mp hfound with hsame | hlater
      · rw [hsame]
        rcases t.earlier_eq_or s with he | he
        · rw [he]
          exact List.mem_cons_self
        · rw [he]
          exact List.mem_cons_of_mem t List.mem_cons_self
      · exact List.mem_cons_of_mem t (List.mem_cons_of_mem s hlater)
    · exact List.forall_mem_cons.mpr ⟨Int.le_trans hfirst hleft,
        List.forall_mem_cons.mpr ⟨Int.le_trans hfirst hright, hrest⟩⟩

/-- Looking for earlier instants finds that one of those given which comes after none of them. -/
theorem Instant.foldl_earlier_eq_iff {s t : Instant} {ts : List Instant} :
    ts.foldl earlier t = s ↔ s ∈ t :: ts ∧ ∀ u ∈ t :: ts, s ≤ u := by
  obtain ⟨hfound, hleast⟩ := t.foldl_earlier ts
  constructor
  · rintro rfl
    exact ⟨hfound, hleast⟩
  · rintro ⟨hs, hmin⟩
    exact Instant.le_antisymm (hleast s hs) (hmin _ hfound)

end AnchoredMetadata.Time
