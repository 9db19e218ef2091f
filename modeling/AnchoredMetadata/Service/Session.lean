import AnchoredMetadata.Client
import AnchoredMetadata.Scheduler
import AnchoredMetadata.Service.Failure
import AnchoredMetadata.Service.Logger

/-!
# Sessions

A session is a running service: a source of anchors, a repository that follows
it, and clocks for refreshes and reports. It starts with a refresh and ends when
it is told to stop.
-/

namespace AnchoredMetadata.Service

open Time

/-- What a session is made of. -/
structure Plan where
  /-- The settings. -/
  settings : Settings
  /-- How entries are logged. -/
  logger : Logger
  /-- Where anchors come from. -/
  source : AnchorSource
  /-- What metadata is published below. -/
  base : Url
  /-- The store that vouches for anchors, if they need that. -/
  keystore : Option TrustStore

/-- What comes of planning. -/
structure Planning where
  /-- What was logged, if a logger was set up. -/
  log : Option Logger.SetUp
  /-- The plan, or why there is none. -/
  result : Except Failure Plan

namespace Plan

/-- An entry of the service itself. -/
def entry (level : Log.Level) (message : String) (fields : List (String × String)) : Log.Entry :=
  ⟨"federation_trust_service", level, message, fields⟩

/-- Read the locations of anchors. -/
def readLocations : List String → Except Failure (List Url)
  | [] => .ok []
  | s :: rest =>
    match Url.ofText s with
    | .error e => .error ⟨"invalid trust anchor uri '" ++ s ++ "'", [e.message]⟩
    | .ok u => (readLocations rest).map (u :: ·)

/-- Read the base of metadata. -/
def readBase (s : String) : Except Failure Url :=
  match Url.ofText s with
  | .error e => .error ⟨"invalid metadata source uri '" ++ s ++ "'", [e.message]⟩
  | .ok u => .ok u

/-- The causes of a store that cannot be loaded. -/
def loadCauses : TrustStoreSettings.LoadError → List String
  | .disk e => [e.message, e.message]
  | .certificate e => [e.message]

/-- Load the keystore. -/
def readKeystore (d : Disk) (k : TrustStoreSettings) : Except Failure TrustStore :=
  match k.load d with
  | .error e => .error ⟨"failed to load keystore " ++ k.path.shown, loadCauses e⟩
  | .ok store => .ok store

/-- The entry about a keystore. -/
def loaded (store : TrustStore) : Log.Entry :=
  entry .info "Loaded anchor keystore"
    [("keystore", store.name), ("certificates", toString store.size)]

/-- Plan a session after its logger is set up. -/
def make (s : Settings) (logger : Logger) (d : Disk) : Except Failure (Plan × List Log.Entry) := do
  let source := AnchorSource.ofLocations (← readLocations s.anchors.locations)
  let base ← readBase s.metadata.base
  match s.anchors.keystore with
  | none => return (⟨s, logger, source, base, none⟩, [])
  | some k => do
    let store ← readKeystore d k
    return (⟨s, logger, source, base, some store⟩, [loaded store])

/-- Plan a session. -/
def ofSettings (s : Settings) (e : Environment) (d : Disk) : Planning :=
  match Log.Format.ofText s.logging.format with
  | .error e => ⟨none, .error ⟨e.message, []⟩⟩
  | .ok format =>
    let log := Logger.setUp e (Log.Threshold.ofText s.logging.level) format
    match make s log.logger d with
    | .error failure => ⟨some log, .error failure⟩
    | .ok (plan, entries) =>
      ⟨some { log with entries := log.entries ++ entries }, .ok plan⟩

/-- The settings of the repository at an instant, at which certificates of anchors are judged. -/
def repositorySettings (p : Plan) (now : Instant) : Repository.Settings where
  base := p.base
  environment := p.settings.metadata.environment
  delays := ⟨seconds p.settings.metadata.leastDelay, seconds p.settings.metadata.mostDelay⟩
  check := p.keystore.map fun store => ⟨Validation.validator now, store⟩

end Plan

/-- A running service. -/
structure Session where
  /-- What it was made of. -/
  plan : Plan
  /-- Where anchors come from, with what is known of them. -/
  source : AnchorSource
  /-- The repository. -/
  repository : Repository
  /-- When the next refresh is due. -/
  refreshDue : Instant
  /-- When the next report is due. -/
  reportDue : Instant

namespace Session

/-- The makers of entries, where clients are limited by what they can trust and send. -/
def makers : Repository.Makers where
  client := fun environment s =>
    match Client.forResolver environment s with
    | .ok _ => .ok ()
    | .error e => .error (.client e.message)
  resolver := fun _ => .ok ()
  engine := fun _ => .ok ()

/-- The entry for an event of the source. -/
def sourceEntry (e : AnchorSource.Event) : Log.Entry := ⟨"metadata_trust::anchor::http", e.record⟩

/-- The entry for an event of the repository. -/
def repositoryEntry (e : Repository.Event) : Log.Entry := ⟨"metadata_trust::repository", e.record⟩

/-- The entry for an event of the scheduler. -/
def schedulerEntry (e : Scheduler.Event) : Log.Entry :=
  ⟨"metadata_trust::repository::scheduler", e.record⟩

/-- The entries for what a repository did. -/
def actEntries (acts : List Repository.Act) : List Log.Entry :=
  acts.filterMap fun a => a.event?.map repositoryEntry

/-- An instant that may be unknown. -/
def instantText : Option Instant → String
  | none => "None"
  | some t => "Some(" ++ t.text ++ ")"

/-- The entry about a repository that has been filled. -/
def readyEntry (r : Repository) : Log.Entry :=
  Plan.entry .info "Metadata resolver repository ready"
    [("resolvers", toString r.snapshot.entries.size), ("rejected", toString r.snapshot.rejected.size)]

/-- The entry with the counts of a repository. -/
def statsEntry (s : Repository.Stats) : Log.Entry :=
  Plan.entry .info "Repository status"
    [("resolvers", toString s.resolvers), ("with_metadata", toString s.withMetadata),
      ("rejected", toString s.rejected), ("earliest_expiry", instantText s.earliestExpiry),
      ("refreshed_at", instantText s.refreshedAt)]

/-- The scheduler of a session. -/
def scheduler (p : Plan) : Scheduler :=
  ⟨seconds p.settings.anchors.interval, seconds p.settings.anchors.leastDelay⟩

/-- The time between two reports; at least a second. -/
def reportInterval (p : Plan) : Duration :=
  (seconds p.settings.logging.statsInterval).longer (.ofSeconds 1)

/-- What comes of a refresh. -/
structure Refreshed where
  /-- The source afterwards. -/
  source : AnchorSource
  /-- The repository afterwards. -/
  repository : Repository
  /-- The counts. -/
  summary : Repository.Summary
  /-- What was reported. -/
  entries : List Log.Entry

/-- Ask a source and bring a repository in line with it. -/
def refreshWith (p : Plan) (source : AnchorSource) (r : Repository) (reply : Nat → Reply)
    (now : Instant) : Refreshed :=
  let asked := source.fetch reply
  let o := { r with settings := p.repositorySettings now }.refresh makers now asked.result
  ⟨asked.source, o.repository, o.summary, asked.events.map sourceEntry ++ actEntries o.acts⟩

/-- Wait for the next refresh. -/
def schedule (s : Session) (now : Instant) : Session × List Log.Entry :=
  let delay := (scheduler s.plan).nextDelay s.repository now
  ({ s with refreshDue := now.after delay }, [schedulerEntry (.waiting delay)])

/-- Report the counts, given which resolvers have metadata. -/
def report (s : Session) (hasMetadata : Nat → Bool) (now : Instant) : Session × List Log.Entry :=
  ({ s with reportDue := now.after (reportInterval s.plan) },
    [statsEntry (s.repository.stats hasMetadata)])

/-- Start a session. -/
def start (p : Plan) (reply : Nat → Reply) (now : Instant) : Session × List Log.Entry :=
  let empty := Repository.create (p.repositorySettings now)
  let first := refreshWith p p.source empty reply now
  let warned := (Repository.startEvents first.summary).map repositoryEntry
  let (s, waiting) := schedule ⟨p, first.source, first.repository, now, now⟩ now
  let (s, status) := s.report (fun _ => false) now
  (s, first.entries ++ warned ++ [readyEntry first.repository] ++ waiting ++ status)

/-- Refresh when that is due. -/
def refreshIfDue (s : Session) (reply : Nat → Reply) (now : Instant) : Session × List Log.Entry :=
  if now < s.refreshDue then (s, [])
  else
    let done := refreshWith s.plan s.source s.repository reply now
    let kept := match done.summary.sourceError with
      | some e => [schedulerEntry (.keptEntries e)]
      | none => []
    let (s, waiting) :=
      { s with source := done.source, repository := done.repository }.schedule now
    (s, done.entries ++ kept ++ waiting)

/-- Report when that is due. -/
def reportIfDue (s : Session) (hasMetadata : Nat → Bool) (now : Instant) :
    Session × List Log.Entry :=
  if now < s.reportDue then (s, []) else s.report hasMetadata now

/-- Stop a session; everything is released. -/
def stop (s : Session) : Session × List Log.Entry :=
  let (r, acts) := s.repository.shutdown
  ({ s with repository := r },
    Plan.entry .info "Ctrl+C received, shutting down" [] :: actEntries acts)

end Session

end AnchoredMetadata.Service
