import AnchoredMetadata.Proofs.Resolver.Polling

/-!
# Published metadata and pauses

While nobody destroys it, a resolver always shows what its filters left of the last
document that could be read, even if that is nothing. A round without such a document
changes neither what is shown nor the time noted for it. The longest pause
follows every document that could be read, the shortest one everything else.
-/

namespace AnchoredMetadata

open Time

/-- Bounds that do not reach past an expiry are in order. -/
theorem Delays.shortest_le_longest_cappedAt (d : Delays) (expiry now : Instant) :
    (d.cappedAt expiry now).shortest ≤ (d.cappedAt expiry now).longest := by
  have hshorter := Duration.shorter_nanoseconds d.shortest (d.longest.shorter (expiry.since now))
  rw [Duration.le_def, cappedAt, hshorter]
  exact Nat.min_le_right _ _

namespace Resolver

/-! ## Pauses -/

/-- The pause after a poll is at least a second. -/
theorem pauseAfter_nanoseconds (r : Resolver) (success : Bool) :
    (r.pauseAfter success).nanoseconds =
      max (if success then r.settings.delays.longest else r.settings.delays.shortest).nanoseconds
        1000000000 := by
  cases success with
  | true => exact Duration.longer_nanoseconds r.settings.delays.longest Delays.floor
  | false => exact Duration.longer_nanoseconds r.settings.delays.shortest Delays.floor

/-- Where the bounds are in order, the pause after a failure is not the longer one. -/
theorem pauseAfter_le {r : Resolver} (h : r.settings.delays.shortest ≤ r.settings.delays.longest) :
    r.pauseAfter false ≤ r.pauseAfter true := by
  have hle := (Duration.le_def _ _).mp h
  rw [Duration.le_def, pauseAfter_nanoseconds, pauseAfter_nanoseconds]
  simp only [Bool.false_eq_true, if_false, if_true]
  omega

/-- Which pause follows a round depends on whether its document could be read. -/
theorem Polls.phase_round {r : Resolver} {settings : ResolverSettings} {requireValid : Bool}
    {roles : List Role} (h : r.Polls settings requireValid roles) (x : Round) :
    (r.round x).phase = .pausing (x.moment.after (r.pauseAfter x.accepted?.isSome)) := by
  rw [h.round_eq x, pauseAfter, h.settings_eq]
  cases x.accepted? with
  | none => rfl
  | some m => rfl

/-! ## Any rounds -/

/-- After any rounds and one more, a resolver shows what its filters left of the last document that
could be read, and nothing if there was none. If the last round brought no such document, metadata
and time are those from before. The last round is followed by the longest pause if its document
could be read and by the shortest one otherwise, each of at least a second; and with bounds that do
not reach past an expiry the pause after a failure is not the longer one. -/
theorem shown_after_rounds (settings : ResolverSettings) (requireValid : Bool) (roles : List Role)
    (validator : Validator) (xs : List Round) (x : Round) :
    let before := (start settings requireValid roles validator).rounds xs
    let r := (start settings requireValid roles validator).rounds (xs ++ [x])
    r.metadata = ((lastAccepted? (xs ++ [x])).bind fun last =>
      last.1.filtered settings requireValid roles last.2) ∧
    (x.accepted? = none → r.metadata = before.metadata ∧ r.refreshedAt = before.refreshedAt) ∧
    (∃ pause, r.phase = .pausing (x.moment.after pause) ∧ pause.nanoseconds =
      max (if x.accepted?.isSome then settings.delays.longest
        else settings.delays.shortest).nanoseconds 1000000000) ∧
    ∀ d expiry now, settings.delays = Delays.cappedAt d expiry now →
      r.pauseAfter false ≤ r.pauseAfter true := by
  intro before r
  obtain ⟨hpolls, _⟩ := published_rounds settings requireValid roles validator xs
  obtain ⟨hnext, hmetadata, _⟩ :=
    published_rounds settings requireValid roles validator (xs ++ [x])
  have hround : r = before.round x := rounds_concat _ xs x
  refine ⟨hmetadata, ?_, ?_, ?_⟩
  · intro hnone
    rw [hround, hpolls.round_eq x, hnone]
    exact ⟨rfl, rfl⟩
  · refine ⟨before.pauseAfter x.accepted?.isSome, ?_, ?_⟩
    · rw [hround]
      exact hpolls.phase_round x
    · rw [pauseAfter_nanoseconds, hpolls.settings_eq]
  · intro d expiry now hdelays
    apply pauseAfter_le
    rw [hnext.settings_eq, hdelays]
    exact Delays.shortest_le_longest_cappedAt d expiry now

/-- A round whose document cannot be read leaves the document of the round before in place. -/
theorem kept_after_broken_round :
    let rounds := (start sampleTold true [.identityProvider] sampleRound.validator).rounds
    (rounds [sampleRound]).metadata.isSome = true ∧
      (rounds [sampleRound, brokenRound]).metadata = (rounds [sampleRound]).metadata ∧
      (rounds [sampleRound, brokenRound]).refreshedAt = some sampleRound.moment ∧
      (rounds [sampleRound, brokenRound]).pauseAfter false ≤
        (rounds [sampleRound, brokenRound]).pauseAfter true := by
  intro rounds
  have hbroken : brokenRound.accepted? = none := rfl
  have hcapped : sampleTold.delays = Delays.standard.cappedAt ⟨600000000000⟩ ⟨0⟩ := by decide
  obtain ⟨_, hsame, _, hpauses⟩ := shown_after_rounds sampleTold true [.identityProvider]
    sampleRound.validator [sampleRound] brokenRound
  obtain ⟨hmetadata, hnoted⟩ := hsame hbroken
  refine ⟨?_, hmetadata, hnoted.trans ?_, hpauses Delays.standard ⟨600000000000⟩ ⟨0⟩ hcapped⟩
  · decide +kernel
  · decide +kernel

end Resolver

end AnchoredMetadata
