import AnchoredMetadata.Proofs.KeyMap
import AnchoredMetadata.Proofs.Repository.Making
import AnchoredMetadata.Proofs.Time.Earliest
import AnchoredMetadata.Scheduler

/-!
# How long a scheduler waits

A scheduler waits for the next expiry of a chain, to the nanosecond, but not longer than
its interval and not shorter than its least delay. Entries whose chain has expired, if
only at this moment, make no difference.
-/

namespace AnchoredMetadata

open Time

namespace Repository

variable {r : Repository} {now t : Instant}

/-! ## The next expiry -/

/-- The earliest of some instants is one of them, and none comes before it. -/
theorem earliest_eq_some_iff {ts : List Instant} :
    earliest ts = some t ↔ t ∈ ts ∧ ∀ u ∈ ts, t ≤ u := by
  cases ts with
  | nil => simp [earliest]
  | cons s rest => rw [earliest, Option.some.injEq, Instant.foldl_earlier_eq_iff]

theorem earliest_eq_none_iff {ts : List Instant} : earliest ts = none ↔ ts = [] := by
  cases ts with
  | nil => simp [earliest]
  | cons s rest => simp [earliest]

/-- The chains of the entries expire when one of the entries says so. -/
theorem mem_expiries_iff : t ∈ r.expiries ↔ ∃ id e, r.entry? id = some e ∧ e.expiry = t := by
  simp only [expiries, List.mem_map, KeyMap.mem_values_iff, entry?]
  constructor
  · rintro ⟨e, ⟨id, he⟩, ht⟩
    exact ⟨id, e, he, ht⟩
  · rintro ⟨id, e, he, ht⟩
    exact ⟨e, ⟨id, he⟩, ht⟩

/-- An instant is the first after another at which the chain of an entry expires. -/
structure IsNextExpiry (r : Repository) (now t : Instant) : Prop where
  /-- It is in the future. -/
  later : now < t
  /-- A chain expires then. -/
  attained : ∃ id e, r.entry? id = some e ∧ e.expiry = t
  /-- No chain expires in the future before that. -/
  least : ∀ id e, r.entry? id = some e → now < e.expiry → t ≤ e.expiry

theorem nextExpiryAfter_eq_some_iff : r.nextExpiryAfter now = some t ↔ r.IsNextExpiry now t := by
  rw [nextExpiryAfter, earliest_eq_some_iff]
  simp only [List.mem_filter, mem_expiries_iff, decide_eq_true_eq]
  constructor
  · rintro ⟨⟨hattained, hlater⟩, hleast⟩
    exact ⟨hlater, hattained, fun id e he hnow => hleast e.expiry ⟨⟨id, e, he, rfl⟩, hnow⟩⟩
  · rintro ⟨hlater, hattained, hleast⟩
    refine ⟨⟨hattained, hlater⟩, ?_⟩
    rintro _ ⟨⟨id, e, he, rfl⟩, hnow⟩
    exact hleast id e he hnow

/-- There is no next expiry when no chain expires in the future. -/
theorem nextExpiryAfter_eq_none_iff :
    r.nextExpiryAfter now = none ↔ ∀ id e, r.entry? id = some e → e.expiry ≤ now := by
  rw [nextExpiryAfter, earliest_eq_none_iff, List.filter_eq_nil_iff]
  simp only [mem_expiries_iff, decide_eq_true_eq]
  constructor
  · intro h id e he
    exact Int.not_lt.mp (h e.expiry ⟨id, e, he, rfl⟩)
  · rintro h _ ⟨id, e, he, rfl⟩
    exact Int.not_lt.mpr (h id e he)

/-- The repository with the entries that pass a test. -/
def keeping (r : Repository) (keep : String × Entry → Bool) : Repository :=
  { r with snapshot := { r.snapshot with entries := r.snapshot.entries.restrict keep } }

theorem entry?_keeping_eq_some_iff {keep : String × Entry → Bool} {id : String} {e : Entry} :
    entry? (r.keeping keep) id = some e ↔ r.entry? id = some e ∧ keep (id, e) = true :=
  KeyMap.find?_restrict_eq_some_iff

/-- Without entries whose chain has expired, the next expiry is the same. -/
theorem nextExpiryAfter_keeping {keep : String × Entry → Bool}
    (h : ∀ id e, r.entry? id = some e → now < e.expiry → keep (id, e) = true) :
    (r.keeping keep).nextExpiryAfter now = r.nextExpiryAfter now := by
  apply Option.ext
  intro t
  simp only [nextExpiryAfter_eq_some_iff]
  constructor
  · rintro ⟨hlater, ⟨id, e, he, ht⟩, hleast⟩
    refine ⟨hlater, ⟨id, e, (entry?_keeping_eq_some_iff.mp he).1, ht⟩, ?_⟩
    intro id e he hnow
    exact hleast id e (entry?_keeping_eq_some_iff.mpr ⟨he, h id e he hnow⟩) hnow
  · rintro ⟨hlater, ⟨id, e, he, rfl⟩, hleast⟩
    refine ⟨hlater, ⟨id, e, entry?_keeping_eq_some_iff.mpr ⟨he, h id e he hlater⟩, rfl⟩, ?_⟩
    intro id e he hnow
    exact hleast id e (entry?_keeping_eq_some_iff.mp he).1 hnow

/-- Where every chain expires in the future, the next expiry is the earliest one. -/
theorem nextExpiryAfter_eq_earliestExpiry
    (h : ∀ id e, r.entry? id = some e → now < e.expiry) :
    r.nextExpiryAfter now = r.earliestExpiry := by
  rw [nextExpiryAfter, earliestExpiry, List.filter_eq_self.mpr]
  intro t ht
  obtain ⟨id, e, he, rfl⟩ := mem_expiries_iff.mp ht
  exact decide_eq_true (h id e he)

end Repository

namespace Scheduler

open Repository

variable {s : Scheduler} {r : Repository} {now : Instant}

/-- With a next expiry, the wait is the time until then, within its bounds. -/
theorem nextDelay_of_some {t : Instant} (h : r.nextExpiryAfter now = some t) :
    s.nextDelay r now = (s.interval.shorter (t.since now)).longer s.leastDelay := by
  rw [nextDelay, h]

/-- Without a next expiry, the wait is the interval, if that is not too short. -/
theorem nextDelay_of_none (h : r.nextExpiryAfter now = none) :
    s.nextDelay r now = s.interval.longer s.leastDelay := by
  rw [nextDelay, h]

/-- The wait is within its bounds. -/
theorem nextDelay_within (s : Scheduler) (r : Repository) (now : Instant) :
    s.leastDelay ≤ s.nextDelay r now ∧ s.nextDelay r now ≤ s.interval.longer s.leastDelay := by
  simp only [Duration.le_def, Duration.longer_nanoseconds]
  cases h : r.nextExpiryAfter now with
  | none =>
    rw [nextDelay_of_none h, Duration.longer_nanoseconds]
    omega
  | some t =>
    rw [nextDelay_of_some h, Duration.longer_nanoseconds, Duration.shorter_nanoseconds]
    omega

/-- The wait does not reach past an expiry in the future, unless the least delay does. -/
theorem nextDelay_le_left {id : String} {e : Entry} (he : r.entry? id = some e)
    (hnow : now < e.expiry) :
    ((s.nextDelay r now).nanoseconds : Int) ≤
      max (s.leastDelay.nanoseconds : Int) (e.expiry.nanoseconds - now.nanoseconds) := by
  cases h : r.nextExpiryAfter now with
  | none => exact absurd hnow (Int.not_lt.mpr (nextExpiryAfter_eq_none_iff.mp h id e he))
  | some t =>
    have hleast := (nextExpiryAfter_eq_some_iff.mp h).least id e he hnow
    have hleft : (t.since now).nanoseconds = (t.nanoseconds - now.nanoseconds).toNat := rfl
    rw [nextDelay_of_some h, Duration.longer_nanoseconds, Duration.shorter_nanoseconds, hleft]
    simp only [Instant.le_def, Instant.lt_def] at hleast hnow
    omega

/-- Entries whose chain has expired make no difference. -/
theorem nextDelay_keeping {keep : String × Entry → Bool}
    (h : ∀ id e, r.entry? id = some e → now < e.expiry → keep (id, e) = true) :
    s.nextDelay (r.keeping keep) now = s.nextDelay r now := by
  rw [nextDelay, nextDelay, nextExpiryAfter_keeping h]

/-! ## The wait -/

/-- Whatever entries a repository has, a scheduler waits for its least delay at least, and at most
for its interval or the least delay. Where the least delay is not longer, it waits at most until the
expiry of any entry that is in the future, to the nanosecond: with a next expiry it waits until
then, or for its interval if that is shorter. Entries that have expired may be removed without a
difference, and where there are no others it waits for its interval or the least delay. The next
expiry is the first one in the future, and the first of all where all are. -/
theorem nextDelay_bounds (s : Scheduler) (r : Repository) (now : Instant) :
    (s.leastDelay ≤ s.nextDelay r now ∧ s.nextDelay r now ≤ s.interval.longer s.leastDelay) ∧
    (∀ id e, r.entry? id = some e → now < e.expiry →
      ((s.nextDelay r now).nanoseconds : Int) ≤
        max (s.leastDelay.nanoseconds : Int) (e.expiry.nanoseconds - now.nanoseconds)) ∧
    (∀ t, r.IsNextExpiry now t → s.nextDelay r now =
      (s.interval.shorter (t.since now)).longer s.leastDelay) ∧
    (∀ keep : String × Entry → Bool,
      (∀ id e, r.entry? id = some e → now < e.expiry → keep (id, e) = true) →
        s.nextDelay (r.keeping keep) now = s.nextDelay r now) ∧
    ((∀ id e, r.entry? id = some e → e.expiry ≤ now) →
      s.nextDelay r now = s.interval.longer s.leastDelay) ∧
    (∀ t, r.nextExpiryAfter now = some t ↔ r.IsNextExpiry now t) ∧
    ((∀ id e, r.entry? id = some e → now < e.expiry) →
      r.nextExpiryAfter now = r.earliestExpiry) := by
  refine ⟨nextDelay_within s r now, ?_, ?_, ?_, ?_, ?_, nextExpiryAfter_eq_earliestExpiry⟩
  · intro id e he hnow
    exact nextDelay_le_left he hnow
  · intro t ht
    exact nextDelay_of_some (nextExpiryAfter_eq_some_iff.mpr ht)
  · intro keep h
    exact nextDelay_keeping h
  · intro h
    exact nextDelay_of_none (nextExpiryAfter_eq_none_iff.mpr h)
  · intro t
    exact nextExpiryAfter_eq_some_iff

/-- An entry whose chain expires at some instant. -/
def expiring (expiry : Instant) : Entry :=
  ⟨sampleAnchor, 0, expiry, ⟨sampleSettings.base, "shore", .empty "shore", .standard⟩⟩

/-- A repository with a chain that expires after five seconds, and one that expires after eight. -/
def staggered : Repository :=
  ⟨sampleSettings, ⟨(KeyMap.empty.insert "east" (expiring (.ofSeconds 5))).insert "west"
    (expiring (.ofSeconds 8)), .empty, none⟩, 2⟩

/-- Half a second after one expiry the wait reaches exactly to the next one, as it does without the
entry that has expired. -/
theorem nextDelay_staggered :
    let s : Scheduler := ⟨.ofSeconds 600, standardLeastDelay⟩
    let now : Instant := ⟨5500000000⟩
    s.nextDelay staggered now = ⟨2500000000⟩ ∧
      ((s.nextDelay staggered now).nanoseconds : Int) ≤ max 1000000000 (8000000000 - 5500000000) ∧
      s.nextDelay (staggered.keeping fun x => x.1 = "west") now = s.nextDelay staggered now := by
  intro s now
  obtain ⟨_, hleft, _, hkeeping, _⟩ := nextDelay_bounds s staggered now
  have hwest : staggered.entry? "west" = some (expiring (.ofSeconds 8)) := rfl
  refine ⟨by decide, hleft "west" _ hwest (by decide), hkeeping _ ?_⟩
  intro id e he hnow
  have hentry : (id, e) ∈ [("east", expiring (.ofSeconds 5)), ("west", expiring (.ofSeconds 8))] :=
    KeyMap.find?_eq_some_iff.mp he
  simp only [List.mem_cons, Prod.mk.injEq, List.not_mem_nil, or_false] at hentry
  rcases hentry with ⟨rfl, rfl⟩ | ⟨rfl, rfl⟩
  · exact absurd hnow (by decide)
  · rfl

end Scheduler

end AnchoredMetadata
