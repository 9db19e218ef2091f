import AnchoredMetadata.Proofs.Repository.Ledger
import AnchoredMetadata.Proofs.Repository.Lock

/-!
# Calls on their own

A call that is made on its own does all its work in one go, and keeps the books
in order. However calls are mixed and dropped, the repository is at every moment
as some calls leave it that are made one after another.
-/

namespace AnchoredMetadata.Repository

open Time

/-! ## Settings -/

/-- A call keeps the settings. -/
theorem settings_after (r : Repository) (call : Whole) : (r.after call).settings = r.settings := by
  cases call with
  | shutdown => rfl
  | refresh answer makers now =>
    cases answer with
    | error cause => rfl
    | ok anchors => rfl

/-- Calls keep the settings. -/
theorem settings_afterAll (r : Repository) (calls : List Whole) :
    (r.afterAll calls).settings = r.settings := by
  induction calls generalizing r with
  | nil => rfl
  | cons call rest ih => exact (ih (r.after call)).trans (r.settings_after call)

/-! ## Books between calls -/

/-- The books of a repository that nobody works on are in order: what is published is held. -/
def InOrder (r : Repository) (acts : List Act) : Prop :=
  Ledger acts r.made (r.snapshot.entries.values.map Entry.resolver)

section Books

variable {r : Repository} {acts : List Act} {made : Nat} {held : List Nat}

/-- Releasing entries whose resolvers are held leaves the books in order. -/
theorem Ledger.releaseAll {es : List Entry}
    (h : Ledger acts made (held ++ es.map Entry.resolver)) :
    Ledger (acts ++ es.flatMap Repository.release) made held := by
  induction es generalizing acts with
  | nil =>
    rw [List.map_nil, List.append_nil] at h
    rw [List.flatMap_nil, List.append_nil]
    exact h
  | cons e rest ih =>
    rw [List.flatMap_cons, ← List.append_assoc]
    apply ih
    exact (h.perm List.perm_middle).release

/-- Nothing is booked for a repository that has loaded nothing. -/
theorem inOrder_create (settings : Settings) : (create settings).InOrder [] := Ledger.empty

/-- What is published belongs to resolvers that were made. -/
theorem InOrder.lt_made (h : r.InOrder acts) : ∀ e ∈ r.snapshot.entries.values,
    e.resolver < r.made :=
  fun e he => Ledger.lt_made h e.resolver (List.mem_map_of_mem he)

/-- A refresh keeps the books in order. -/
theorem InOrder.refresh (h : r.InOrder acts) (makers : Makers) (now : Instant)
    (answer : Except SourceError (List Anchor)) :
    (r.refresh makers now answer).repository.InOrder
      (acts ++ (r.refresh makers now answer).acts) := by
  cases answer with
  | error cause =>
    exact Ledger.quiet h _ (by simp [Repository.refresh, Act.makes])
      (by simp [Repository.refresh, Act.destroys])
  | ok anchors =>
    have hplan := Ledger.plan h makers now anchors
    dsimp only at hplan
    rw [List.map_append] at hplan
    have hreleased := hplan.releaseAll.quiet
      (reporting (.refreshed (r.plan makers now anchors).summary))
      (by simp [reporting, Act.makes]) (by simp [reporting, Act.destroys])
    rw [List.append_assoc, List.append_assoc, ← List.append_assoc _ _ (reporting _)] at hreleased
    exact hreleased

/-- A shutdown keeps the books in order. -/
theorem InOrder.shutdown (h : r.InOrder acts) :
    r.shutdown.1.InOrder (acts ++ r.shutdown.2) := by
  have hheld : Ledger acts r.made ([] ++ r.snapshot.entries.values.map Entry.resolver) := h
  have hreleased := hheld.releaseAll.quiet
    (reporting (.shutDown r.snapshot.entries.values.length))
    (by simp [reporting, Act.makes]) (by simp [reporting, Act.destroys])
  rw [List.append_assoc] at hreleased
  exact hreleased

/-- A call keeps the books in order. -/
theorem InOrder.after (h : r.InOrder acts) (call : Whole) :
    ∃ acts, (r.after call).InOrder acts := by
  cases call with
  | refresh answer makers now => exact ⟨_, h.refresh makers now answer⟩
  | shutdown => exact ⟨_, h.shutdown⟩

/-- Calls one after another keep the books in order. -/
theorem InOrder.afterAll (h : r.InOrder acts) (calls : List Whole) :
    ∃ acts, (r.afterAll calls).InOrder acts := by
  induction calls generalizing r acts with
  | nil => exact ⟨acts, h⟩
  | cons call rest ih =>
    obtain ⟨later, hlater⟩ := h.after call
    exact ih hlater

end Books

/-! ## Mixed calls -/

/-- The repository is as some calls leave it one after another, and a plan is one for it. -/
structure Serial (start r : Repository) (stage : Stage) : Prop where
  /-- Some calls leave the repository as it is. -/
  calls : ∃ calls, r = start.afterAll calls
  /-- What is planned was worked out for what is published. -/
  planned : ∀ p, stage = .planned p → ∃ makers now anchors, p = r.plan makers now anchors

/-- One more call on its own. -/
theorem afterAll_concat (r : Repository) (calls : List Whole) (call : Whole) :
    r.afterAll (calls ++ [call]) = (r.afterAll calls).after call := by
  rw [afterAll, List.foldl_append]
  rfl

/-- Every step of the machine keeps the repository as some calls leave it. -/
theorem Serial.advance {start : Repository} {past news : List Happening} {m m' : Machine}
    {move : Move} (h : Serial start m.repository m.stage) (ha : Advance past m move news m') :
    Serial start m'.repository m'.stage := by
  obtain ⟨calls, hr⟩ := h.calls
  cases ha with
  | call => exact h
  | leave => exact h
  | look => exact h
  | refresh => exact ⟨h.calls, nofun⟩
  | shutdown => exact ⟨h.calls, nofun⟩
  | drop => exact ⟨h.calls, nofun⟩
  | fail => exact ⟨h.calls, nofun⟩
  | release => exact ⟨h.calls, nofun⟩
  | finish => exact ⟨h.calls, nofun⟩
  | plan _ call anchors makers now =>
    refine ⟨h.calls, ?_⟩
    intro p hp
    exact ⟨makers, now, anchors, (Stage.planned.inj hp).symm⟩
  | publish _ call p =>
    obtain ⟨makers, now, anchors, hp⟩ := h.planned p rfl
    dsimp only at hp hr
    subst hp
    refine ⟨⟨calls ++ [.refresh (.ok anchors) makers now], ?_⟩, nofun⟩
    rw [afterAll_concat, ← hr]
    rfl
  | clear _ call =>
    refine ⟨⟨calls ++ [.shutdown], ?_⟩, nofun⟩
    rw [afterAll_concat, ← hr]
    rfl

namespace System

/-- A run keeps the repository as some calls leave it. -/
theorem Orderly.serial {start : Repository} {s t : System} (hs : s.Orderly)
    (hserial : Serial start s.repository s.working) {moves : List Move}
    (h : s.run moves = some t) : Serial start t.repository t.working := by
  induction moves generalizing s with
  | nil =>
    obtain rfl := Option.some.inj h
    exact hserial
  | cons move rest ih =>
    rw [run, List.foldlM_cons] at h
    obtain ⟨u, hu, hrest⟩ := Option.bind_eq_some_iff.mp h
    obtain ⟨horderly, news, _, ha⟩ := step_advance hs hu
    exact ih horderly (hserial.advance ha) hrest

/-- At every moment of a run the repository is as some calls leave it one after another. -/
theorem exists_afterAll_of_run {settings : Settings} {moves : List Move} {s : System}
    (h : (create settings).run moves = some s) :
    ∃ calls, s.repository = (Repository.create settings).afterAll calls := by
  have hstart : Serial (Repository.create settings) (create settings).repository
      (create settings).working := ⟨⟨[], rfl⟩, nofun⟩
  exact ((orderly_create settings).serial hstart h).calls

end System

end AnchoredMetadata.Repository
