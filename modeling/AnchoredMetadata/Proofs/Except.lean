/-!
# Steps that may fail

What a step that succeeds is made of.
-/

namespace AnchoredMetadata

variable {ε α β : Type} {x : Except ε α} {b : β}

/-- What a step gives, if all that is looked at is what it gives. -/
theorem exists_eq_ok {f : α → β} (h : x.toOption.map f = some b) : ∃ a, x = .ok a ∧ f a = b := by
  cases x with
  | error e => cases h
  | ok a => exact ⟨a, rfl, Option.some.inj h⟩

theorem bind_eq_ok {f : α → Except ε β} (h : (x >>= f) = .ok b) :
    ∃ a, x = .ok a ∧ f a = .ok b := by
  cases x with
  | error e => cases h
  | ok a => exact ⟨a, rfl, h⟩

theorem map_eq_ok {f : α → β} (h : x.map f = .ok b) : ∃ a, x = .ok a ∧ f a = b := by
  cases x with
  | error e => cases h
  | ok a => exact ⟨a, rfl, Except.ok.inj h⟩

/-- A step behind a refusal succeeds only where nothing is refused. -/
theorem ite_throw_eq_ok {p : Prop} [Decidable p] {e : ε} {y : Except ε β}
    (h : (if p then throw e else y) = .ok b) : ¬ p ∧ y = .ok b := by
  split at h
  · cases h
  · next hp => exact ⟨hp, h⟩

/-- Steps that all succeed give what each of them gives. -/
theorem mapM_eq_some_map {f : α → Option β} {g : α → β} {xs : List α}
    (h : ∀ a ∈ xs, f a = some (g a)) : xs.mapM f = some (xs.map g) := by
  induction xs with
  | nil => rfl
  | cons a xs ih =>
    obtain ⟨ha, hxs⟩ := List.forall_mem_cons.mp h
    rw [List.mapM_cons, ha, ih hxs]
    rfl

end AnchoredMetadata
