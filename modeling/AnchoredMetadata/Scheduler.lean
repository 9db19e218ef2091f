import AnchoredMetadata.Repository

/-!
# Scheduled refreshes

A scheduler refreshes a repository again and again. It waits for an interval,
but not past the next expiry of a chain, and never less than a least delay.
Chains that have expired do not shorten the wait.
-/

namespace AnchoredMetadata

open Time

/-- A scheduler. -/
structure Scheduler where
  /-- How long it waits. -/
  interval : Duration
  /-- How long it waits at least. -/
  leastDelay : Duration
  deriving DecidableEq, Repr

namespace Scheduler

/-- The least delay unless another is given. -/
def standardLeastDelay : Duration := .ofSeconds 1

/-- The wait before the next refresh. -/
def nextDelay (s : Scheduler) (r : Repository) (now : Instant) : Duration :=
  let delay := match r.nextExpiryAfter now with
    | some expiry => s.interval.shorter (expiry.since now)
    | none => s.interval
  delay.longer s.leastDelay

/-- When the next refresh is due. -/
def nextRefresh (s : Scheduler) (r : Repository) (now : Instant) : Instant :=
  now.after (s.nextDelay r now)

/-- What a scheduler reports. -/
inductive Event where
  /-- It is going to wait. -/
  | waiting (delay : Duration)
  /-- A refresh had no anchors. -/
  | keptEntries (cause : String)
  deriving DecidableEq, Repr

/-- The report of an event. -/
def Event.record : Event → Log.Record
  | .waiting delay =>
    ⟨.debug, "Next trust anchor refresh scheduled", [("delay", delay.shortText)]⟩
  | .keptEntries cause =>
    ⟨.warn, "Scheduled refresh kept the previous trust anchors", [("error", cause)]⟩

end Scheduler

end AnchoredMetadata
