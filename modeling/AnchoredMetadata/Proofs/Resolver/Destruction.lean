import AnchoredMetadata.Proofs.Resolver.Polling

/-!
# What is published after a resolver is destroyed

Asking to stop takes effect only where polling waits. A poll that has its
document already goes on, and publishes what filters leave of it even after the
metadata was withdrawn. Nothing else is ever published after that.
-/

namespace AnchoredMetadata.Resolver

open Time

/-! ## Steps -/

/-- A step of polling, or of somebody who destroys the resolver. -/
inductive Move where
  /-- A reply comes. -/
  | receive (reply : Reply) (now : Instant)
  /-- The document is read and filtered. -/
  | process (now : Instant)
  /-- What is left is published. -/
  | publish
  /-- The time is noted, and a pause begins. -/
  | note (now : Instant)
  /-- The pause ends, if it is over. -/
  | wake (now : Instant)
  /-- Polling is asked to stop. -/
  | requestStop
  /-- What is published is withdrawn. -/
  | withdraw

/-- Take a step. -/
def take (r : Resolver) : Move → Resolver
  | .receive reply now => r.receive reply now
  | .process now => r.process now
  | .publish => r.publish
  | .note now => r.note now
  | .wake now => r.wake now
  | .requestStop => r.requestStop
  | .withdraw => r.withdraw

/-- Take steps one after another. -/
def takeAll (r : Resolver) (moves : List Move) : Resolver := moves.foldl take r

/-- What is left of a document that has come but is not published yet. -/
def inFlight? (r : Resolver) : Option Metadata :=
  match r.phase with
  | .received document =>
    (Metadata.read document).toOption.bind fun m => (ChainFilter.runAll r.filters m).metadata
  | .filtered left => left
  | _ => none

/-! ## After a request to stop -/

/-- A resolver was asked to stop and does not wait. What it has in flight meets one condition, and
what it publishes another one, which whatever may be in flight meets as well. -/
structure Closing (expected shown : Option Metadata → Prop) (r : Resolver) : Prop where
  /-- It was asked to stop. -/
  requested : r.stopRequested = true
  /-- No request is under way. -/
  not_waiting : r.phase ≠ .waiting
  /-- No pause is under way. -/
  not_pausing : ∀ instant, r.phase ≠ .pausing instant
  /-- Nothing need be in flight. -/
  nothing : expected none
  /-- What may be in flight may be published. -/
  shown_of_expected : ∀ m, expected m → shown m
  /-- What is in flight may be. -/
  inFlight : expected r.inFlight?
  /-- What is published may be. -/
  published : shown r.metadata

namespace Closing

variable {expected shown : Option Metadata → Prop} {r : Resolver}

/-- A resolver that is closing may stop. -/
theorem stop (h : r.Closing expected shown) :
    ({ r with phase := .stopped } : Resolver).Closing expected shown :=
  ⟨h.requested, nofun, nofun, h.nothing, h.shown_of_expected, h.nothing, h.published⟩

/-- A resolver that is closing stops where it would pause. -/
theorem pause (h : r.Closing expected shown) (success : Bool) (now : Instant) :
    (r.pause success now).Closing expected shown := by
  rw [Resolver.pause, if_pos h.requested]
  exact h.stop

/-- Reading and filtering a document puts into flight what was in flight before. -/
theorem process (h : r.Closing expected shown) (now : Instant) :
    (r.process now).Closing expected shown := by
  unfold Resolver.process
  cases hphase : r.phase with
  | received document =>
    have hflight : expected ((Metadata.read document).toOption.bind fun m =>
        (ChainFilter.runAll r.filters m).metadata) := by
      simpa only [inFlight?, hphase] using h.inFlight
    dsimp only
    cases hread : Metadata.read document with
    | error cause => exact h.pause false now
    | ok m =>
      rw [hread] at hflight
      exact ⟨h.requested, nofun, nofun, h.nothing, h.shown_of_expected, hflight, h.published⟩
  | _ => exact h

/-- Publishing shows what was in flight. -/
theorem publish (h : r.Closing expected shown) : r.publish.Closing expected shown := by
  unfold Resolver.publish
  cases hphase : r.phase with
  | filtered left =>
    have hflight : expected left := by simpa only [inFlight?, hphase] using h.inFlight
    exact ⟨h.requested, nofun, nofun, h.nothing, h.shown_of_expected, h.nothing,
      h.shown_of_expected left hflight⟩
  | _ => exact h

/-- Another request to stop changes nothing. -/
theorem requestStop (h : r.Closing expected shown) : r.requestStop.Closing expected shown := by
  have hsame : r.requestStop = r := by
    unfold Resolver.requestStop
    have hrequested := h.requested
    cases hphase : r.phase with
    | waiting => exact absurd hphase h.not_waiting
    | pausing instant => exact absurd hphase (h.not_pausing instant)
    | _ => simp only [← hphase, ← hrequested]
  rw [hsame]
  exact h

/-- Every step of a resolver that is closing publishes at most what was in flight. -/
theorem take (h : r.Closing expected shown) (move : Move) :
    (r.take move).Closing expected shown := by
  cases move with
  | receive reply now =>
    unfold Resolver.take receive
    cases hphase : r.phase with
    | waiting => exact absurd hphase h.not_waiting
    | _ => exact h
  | process now => exact h.process now
  | publish => exact h.publish
  | note now =>
    unfold Resolver.take note
    cases hphase : r.phase with
    | published =>
      have hnoted : ({ r with refreshedAt := some now } : Resolver).Closing expected shown :=
        ⟨h.requested, h.not_waiting, h.not_pausing, h.nothing, h.shown_of_expected, h.inFlight,
          h.published⟩
      exact hnoted.pause true now
    | _ => exact h
  | wake now =>
    unfold Resolver.take wake
    cases hphase : r.phase with
    | pausing instant => exact absurd hphase (h.not_pausing instant)
    | _ => exact h
  | requestStop => exact h.requestStop
  | withdraw =>
    exact ⟨h.requested, h.not_waiting, h.not_pausing, h.nothing, h.shown_of_expected, h.inFlight,
      h.shown_of_expected none h.nothing⟩

/-- Every run of a resolver that is closing publishes at most what was in flight. -/
theorem takeAll (h : r.Closing expected shown) (moves : List Move) :
    (r.takeAll moves).Closing expected shown := by
  induction moves generalizing r with
  | nil => exact h
  | cons move rest ih => exact ih (h.take move)

end Closing

/-- A resolver that is asked to stop is closing, whatever it has in flight and publishes. -/
theorem closing_requestStop (r : Resolver) :
    r.requestStop.Closing (fun _ => True) fun _ => True := by
  have hall : ∀ m : Option Metadata, True → True := fun _ _ => trivial
  unfold requestStop
  cases hphase : r.phase with
  | waiting => exact ⟨rfl, nofun, nofun, trivial, hall, trivial, trivial⟩
  | pausing instant => exact ⟨rfl, nofun, nofun, trivial, hall, trivial, trivial⟩
  | _ => exact ⟨rfl, by simp, by simp, trivial, hall, trivial, trivial⟩

/-- A resolver that is asked to stop where it waits is closing, with nothing in flight. -/
theorem closing_requestStop_of_waits {r : Resolver}
    (h : r.phase = .waiting ∨ ∃ instant, r.phase = .pausing instant) :
    r.requestStop.Closing (fun m => m = none) fun _ => True := by
  have hstopped : r.requestStop = { r with phase := .stopped, stopRequested := true } := by
    unfold requestStop
    rcases h with hphase | ⟨instant, hphase⟩ <;> rw [hphase]
  rw [hstopped]
  exact ⟨rfl, nofun, nofun, rfl, fun _ _ => trivial, rfl, trivial⟩

/-- After a withdrawal at most what was in flight is published again. -/
theorem Closing.withdraw {expected shown : Option Metadata → Prop} {r : Resolver}
    (h : r.Closing expected shown) :
    r.withdraw.Closing (fun m => m = none ∨ m = r.inFlight?)
      fun m => m = none ∨ m = r.inFlight? :=
  ⟨h.requested, h.not_waiting, h.not_pausing, .inl rfl, fun _ hm => hm, .inr rfl, .inl rfl⟩

/-- What is in flight is published when the poll goes on. -/
theorem metadata_process_publish {r : Resolver} {m : Metadata} (h : r.inFlight? = some m)
    (now : Instant) : (r.takeAll [.process now, .publish]).metadata = some m := by
  have hsteps : r.takeAll [.process now, .publish] = (r.process now).publish := rfl
  rw [hsteps, process]
  cases hphase : r.phase with
  | received document =>
    simp only [inFlight?, hphase] at h
    dsimp only
    cases hread : Metadata.read document with
    | error cause =>
      rw [hread] at h
      cases h
    | ok tree =>
      rw [hread] at h
      exact h
  | filtered left =>
    simp only [inFlight?, hphase] at h
    simp only [publish, hphase]
    exact h
  | _ =>
    simp only [inFlight?, hphase] at h
    cases h

/-- When a resolver is asked to stop and then, whatever happens meanwhile, its metadata is
withdrawn, then whatever happens later it publishes nothing or what was in flight. It publishes
nothing for ever exactly when nothing was in flight, as when it was asked to stop where it
waits. -/
theorem metadata_after_withdrawal (r : Resolver) (meanwhile : List Move) :
    let gone := (r.requestStop.takeAll meanwhile).withdraw
    (∀ later, (gone.takeAll later).metadata = none ∨
      (gone.takeAll later).metadata = gone.inFlight?) ∧
    ((∀ later, (gone.takeAll later).metadata = none) ↔ gone.inFlight? = none) ∧
    ((r.phase = .waiting ∨ ∃ instant, r.phase = .pausing instant) → gone.inFlight? = none) := by
  intro gone
  have hlater (later : List Move) : (gone.takeAll later).metadata = none ∨
      (gone.takeAll later).metadata = gone.inFlight? :=
    (((closing_requestStop r).takeAll meanwhile).withdraw.takeAll later).published
  refine ⟨hlater, ⟨?_, ?_⟩, ?_⟩
  · intro hnone
    by_contra hsome
    obtain ⟨m, hm⟩ := Option.ne_none_iff_exists'.mp hsome
    have hback := metadata_process_publish hm ⟨0⟩
    rw [hnone] at hback
    exact absurd hback nofun
  · intro hnone later
    rcases hlater later with h | h
    · exact h
    · exact h.trans hnone
  · intro hwaits
    exact ((closing_requestStop_of_waits hwaits).takeAll meanwhile).inFlight

/-- A resolver that is destroyed between filtering a document and publishing it publishes it
afterwards. -/
theorem not_withdrawn_for_ever :
    ¬ ∀ before meanwhile later : List Move,
      ((((start sampleTold true [.identityProvider] sampleRound.validator).takeAll
        before).requestStop.takeAll meanwhile).withdraw.takeAll later).metadata = none := by
  intro hnever
  have hpublished : (((((start sampleTold true [.identityProvider] sampleRound.validator).takeAll
      [.receive sampleRound.reply ⟨0⟩, .process ⟨0⟩]).requestStop.takeAll []).withdraw.takeAll
        [.publish]).metadata).isSome = true := by decide +kernel
  rw [hnever] at hpublished
  exact absurd hpublished nofun

end AnchoredMetadata.Resolver
