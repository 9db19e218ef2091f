/-!
# Traces that follow a rule

A rule says what may come after what. A trace follows it when each of its events
may come after those before it.
-/

namespace AnchoredMetadata

/-- Some events, coming after others, follow a rule that says which event may come after which
events. -/
def Obeys {α : Type} (rule : List α → α → Prop) : List α → List α → Prop
  | _, [] => True
  | past, event :: rest => rule past event ∧ Obeys rule (past ++ [event]) rest

variable {α : Type} {rule : List α → α → Prop} {past : List α}

/-- Events follow a rule when a first part does, and then the rest. -/
theorem obeys_append {events later : List α} :
    Obeys rule past (events ++ later) ↔
      Obeys rule past events ∧ Obeys rule (past ++ events) later := by
  induction events generalizing past with
  | nil => simp only [List.nil_append, List.append_nil, Obeys, true_and]
  | cons event rest ih =>
    simp only [List.cons_append, Obeys, ih, and_assoc, List.append_assoc, List.nil_append]

/-- Each of some events that follow a rule may come where it does. -/
theorem Obeys.rule_apply {done rest : List α} {event : α}
    (h : Obeys rule past (done ++ event :: rest)) : rule (past ++ done) event :=
  (obeys_append.mp h).2.1

/-- Events that may come anywhere follow a rule. -/
theorem obeys_of_forall {events : List α} (h : ∀ event ∈ events, ∀ past, rule past event) :
    Obeys rule past events := by
  induction events generalizing past with
  | nil => exact trivial
  | cons event rest ih =>
    obtain ⟨hfirst, hrest⟩ := List.forall_mem_cons.mp h
    exact ⟨hfirst past, ih hrest⟩

end AnchoredMetadata
