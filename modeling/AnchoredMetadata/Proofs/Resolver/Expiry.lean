import AnchoredMetadata.Proofs.Resolver.Publishing

/-!
# Pauses and the expiry of the chain

The longest pause of a resolver is cut to the time that is left when its settings are
made. It is not cut again, however long the resolver polls and its entry is kept. So a
pause that begins later may reach past the expiry of the chain, by as much as the time
that has passed since.
-/

namespace AnchoredMetadata

open Time

/-- The longest pause that may begin at an instant: the time left before an expiry, but at least the
shortest pause there is. -/
def Delays.allowed (expiry now : Instant) : Duration := (expiry.since now).longer floor

/-- The longest pause of settings that are made at an instant. -/
def Delays.longestFor (d : Delays) (expiry now : Instant) : Duration :=
  (d.cappedAt expiry now).raised.longest

theorem Delays.allowed_nanoseconds (expiry now : Instant) :
    (allowed expiry now).nanoseconds =
      max (expiry.nanoseconds - now.nanoseconds).toNat 1000000000 :=
  Duration.longer_nanoseconds (expiry.since now) floor

theorem Delays.longestFor_nanoseconds (d : Delays) (expiry now : Instant) :
    (d.longestFor expiry now).nanoseconds =
      max (min d.longest.nanoseconds (expiry.nanoseconds - now.nanoseconds).toNat) 1000000000 := by
  have hshorter := Duration.shorter_nanoseconds d.longest (expiry.since now)
  have hlonger := Duration.longer_nanoseconds (d.longest.shorter (expiry.since now)) floor
  rw [hshorter] at hlonger
  exact hlonger

/-- When settings are made, no pause reaches past the expiry. -/
theorem Delays.longestFor_le_allowed (d : Delays) (expiry made : Instant) :
    d.longestFor expiry made ≤ allowed expiry made := by
  rw [Duration.le_def, longestFor_nanoseconds, allowed_nanoseconds]
  omega

/-- Later the pause is too long by at most the time that has passed since. -/
theorem Delays.longestFor_le_add (d : Delays) (expiry made now : Instant) :
    (d.longestFor expiry made).nanoseconds ≤
      (allowed expiry now).nanoseconds + (now.since made).nanoseconds := by
  have hpassed : (now.since made).nanoseconds = (now.nanoseconds - made.nanoseconds).toNat := rfl
  rw [longestFor_nanoseconds, allowed_nanoseconds, hpassed]
  omega

/-- Before the expiry, the pause is not too long exactly when what is configured or what was left
when the settings were made is not. -/
theorem Delays.longestFor_le_iff (d : Delays) (expiry made now : Instant) :
    d.longestFor expiry made ≤ allowed expiry now ↔
      d.longest ≤ allowed expiry now ∨ expiry.since made ≤ allowed expiry now := by
  have hleft : (expiry.since made).nanoseconds = (expiry.nanoseconds - made.nanoseconds).toNat :=
    rfl
  simp only [Duration.le_def, longestFor_nanoseconds, allowed_nanoseconds, hleft]
  omega

namespace Resolver

/-- A round whose document can be read is followed by the longest pause. -/
theorem phase_after_success (settings : ResolverSettings) (requireValid : Bool)
    (roles : List Role) (validator : Validator) (xs : List Round) {x : Round}
    (hx : x.accepted?.isSome = true) :
    ((start settings requireValid roles validator).rounds (xs ++ [x])).phase =
      .pausing (x.moment.after settings.delays.raised.longest) := by
  obtain ⟨hpolls, _⟩ := published_rounds settings requireValid roles validator xs
  rw [rounds_concat, hpolls.phase_round x, hx, pauseAfter, hpolls.settings_eq]
  rfl

end Resolver

/-- What the resolver of an entry is told was made by one refresh, and is kept by all later ones. -/
theorem Repository.exists_forEntity {s : Settings} (calls : List Whole) {id : String} {e : Entry}
    (h : ((create s).afterAll calls).snapshot.entries.find? id = some e) :
    ∃ before anchors makers made later,
      calls = before ++ .refresh (.ok anchors) makers made :: later ∧
      e.settings = ResolverSettings.forEntity s.delays e.settings.location e.settings.entityId
        e.settings.store e.expiry made := by
  obtain ⟨before, anchors, makers, made, later, n, hcalls, _, _, hres, _⟩ :=
    exists_materialize calls h
  obtain ⟨leaf, rest, location, _, _, _, _, htold⟩ :=
    exists_of_prepare (prepare_of_materialize hres).1
  refine ⟨before, anchors, makers, made, later, hcalls, ?_⟩
  rw [htold]
  rfl

namespace Resolver

/-- After any rounds, a round whose document can be read is followed by a pause that was fixed when
the settings were made: the configured one, cut to the time that was left then, and at least a
second. So it was not too long when the settings were made. If it begins later it is too long by at
most the time that has passed since, and not at all exactly when what is configured or what was left
is not too long. What the resolver of an entry is told was made by the refresh that made the entry,
whatever refreshes came after. -/
theorem pause_fixed_by_settings (d : Delays) (location : Url) (entityId : String)
    (store : TrustStore) (expiry made : Instant) (requireValid : Bool) (roles : List Role)
    (validator : Validator) (xs : List Round) (x : Round) (hx : x.accepted?.isSome = true) :
    let settings := ResolverSettings.forEntity d location entityId store expiry made
    let pause := (d.longest.shorter (expiry.since made)).longer (.ofSeconds 1)
    ((start settings requireValid roles validator).rounds (xs ++ [x])).phase =
      .pausing (x.moment.after pause) ∧
    pause ≤ Delays.allowed expiry made ∧
    pause.nanoseconds ≤
      (Delays.allowed expiry x.moment).nanoseconds + (x.moment.since made).nanoseconds ∧
    (pause ≤ Delays.allowed expiry x.moment ↔
      d.longest ≤ Delays.allowed expiry x.moment ∨
        expiry.since made ≤ Delays.allowed expiry x.moment) ∧
    ∀ s calls id e, ((Repository.create s).afterAll calls).snapshot.entries.find? id = some e →
      ∃ before anchors makers moment later,
        calls = before ++ .refresh (.ok anchors) makers moment :: later ∧
        e.settings = ResolverSettings.forEntity s.delays e.settings.location e.settings.entityId
          e.settings.store e.expiry moment := by
  intro settings pause
  refine ⟨phase_after_success settings requireValid roles validator xs hx,
    d.longestFor_le_allowed expiry made, d.longestFor_le_add expiry made x.moment,
    d.longestFor_le_iff expiry made x.moment, ?_⟩
  intro s calls id e he
  exact Repository.exists_forEntity calls he

/-- The sample round, ten minutes later. -/
def laterRound : Round := { sampleRound with moment := ⟨600000000000⟩ }

/-- With the standard pauses, and a chain that expires 1000 seconds after the settings are made, a
success after 600 seconds is followed by a pause of 600 seconds, of which 200 are after the
expiry. -/
theorem pause_past_expiry :
    laterRound.accepted?.isSome = true ∧
      ((start (.forEntity .standard sampleTold.location "shore" sampleTold.store
        ⟨1000000000000⟩ ⟨0⟩) true [.identityProvider] sampleRound.validator).rounds
          [sampleRound, laterRound]).phase = .pausing ⟨1200000000000⟩ :=
  have hx : laterRound.accepted?.isSome = true := by decide +kernel
  ⟨hx, (pause_fixed_by_settings .standard sampleTold.location "shore" sampleTold.store
    ⟨1000000000000⟩ ⟨0⟩ true [.identityProvider] sampleRound.validator [sampleRound] laterRound
    hx).1⟩

/-- Not every pause that begins before the expiry of the chain ends by then, or is a second long. -/
theorem not_paused_within_expiry :
    ¬ ∀ (d : Delays) (location : Url) (entityId : String) (store : TrustStore)
      (expiry made : Instant) (requireValid : Bool) (roles : List Role) (validator : Validator)
      (xs : List Round) (x : Round), x.accepted?.isSome = true →
        made ≤ x.moment → x.moment < expiry → ∀ wakeAt,
          ((start (.forEntity d location entityId store expiry made) requireValid roles
            validator).rounds (xs ++ [x])).phase = .pausing wakeAt →
          wakeAt ≤ x.moment.after (Delays.allowed expiry x.moment) := by
  intro h
  have hx : laterRound.accepted?.isSome = true := by decide +kernel
  have hwake := h .standard sampleTold.location "shore" sampleTold.store ⟨1000000000000⟩ ⟨0⟩ true
    [.identityProvider] sampleRound.validator [sampleRound] laterRound hx (by decide) (by decide)
    _ (phase_after_success _ true [.identityProvider] sampleRound.validator [sampleRound] hx)
  revert hwake
  decide

end Resolver

end AnchoredMetadata
