import AnchoredMetadata.Anchor.Source
import AnchoredMetadata.KeyMap
import AnchoredMetadata.Location
import AnchoredMetadata.Resolver
import AnchoredMetadata.Validation

/-!
# The repository

The repository keeps one resolver for every anchor. A refresh brings it in line
with the current anchors: entries whose anchor is unchanged are kept, others are
made anew, and what is no longer used is released. Anchors of which no entry can
be made are left out and listed with the reason. Everything a refresh needs from
outside is passed to it, and everything it does outside is listed in order.
-/

namespace AnchoredMetadata

open Time

namespace Repository

/-- What certificates of anchors are judged by. -/
structure AnchorCheck where
  /-- The judge. -/
  validator : Validator
  /-- What it judges against. -/
  store : TrustStore

/-- The settings of a repository. -/
structure Settings where
  /-- What metadata is published below. -/
  base : Url
  /-- Where the program runs. -/
  environment : String
  /-- Bounds for the pause between two fetches. -/
  delays : Delays
  /-- What the first certificate of every anchor must pass, if anything. -/
  check : Option AnchorCheck

/-- The usual settings for a base. -/
def Settings.standard (base : Url) : Settings := ⟨base, "production", .standard, none⟩

/-- Why no entry can be made of an anchor. -/
inductive Refusal where
  /-- The chain cannot be read. -/
  | chain (cause : ChainError)
  /-- The first certificate is not trusted. -/
  | untrusted (entityId reason : String)
  /-- The metadata has no location. -/
  | location (cause : Url.Error)
  /-- There is no client. -/
  | client (reason : String)
  /-- There is no resolver. -/
  | resolver (reason : String)
  /-- There is no trust engine. -/
  | engine (reason : String)
  deriving DecidableEq, Repr

/-- The wording of a refusal. -/
def Refusal.message : Refusal → String
  | .chain e => e.message
  | .untrusted id reason =>
    "trust anchor '" ++ id ++ "' failed certificate chain validation: " ++ reason
  | .location e => Location.faultText e
  | .client reason => "failed to build metadata client: " ++ reason
  | .resolver reason => "failed to build metadata resolver: " ++ reason
  | .engine reason => "failed to build signature trust engine: " ++ reason

/-- How a check judges a certificate, with the reason of a rejection. A validator that breaks
down counts as one that rejects. -/
def AnchorCheck.judge (k : AnchorCheck) (c : Certificate) : Except String Unit :=
  match k.validator c k.store with
  | .accepted => .ok ()
  | .rejected reason => .error reason
  | .crashed => .error "certificate chain validation failed"

/-- The makers of what an entry consists of, in one refresh. What they answer may differ from one
refresh to the next. -/
structure Makers where
  /-- Make a client in an environment. -/
  client : String → ResolverSettings → Except Refusal Unit
  /-- Make a resolver. -/
  resolver : ResolverSettings → Except Refusal Unit
  /-- Make a trust engine over a new resolver. -/
  engine : ResolverSettings → Except Refusal Unit
  /-- Have the first certificate of an entity's chain judged. -/
  verdict : AnchorCheck → String → Certificate → Except String Unit := fun k _ c => k.judge c

/-- Makers of which none fails. -/
def Makers.willing : Makers where
  client := fun _ _ => .ok ()
  resolver := fun _ => .ok ()
  engine := fun _ => .ok ()

/-- A resolver with its trust engine, and the anchor they were made from. -/
structure Entry where
  /-- The anchor. -/
  anchor : Anchor
  /-- The number of the resolver; no two resolvers have the same. -/
  resolver : Nat
  /-- When the first certificate of the chain ends. -/
  expiry : Instant
  /-- What the resolver was told. -/
  settings : ResolverSettings

/-- One published state. -/
structure Snapshot where
  /-- The entries by entity. -/
  entries : KeyMap Entry
  /-- The anchors left out, with the reason. -/
  rejected : KeyMap Refusal
  /-- When the refresh took place. -/
  refreshedAt : Option Instant

/-- The state without entries. -/
def Snapshot.empty : Snapshot := ⟨.empty, .empty, none⟩

/-- What one refresh did. -/
structure Summary where
  /-- Entries kept. -/
  reused : Nat
  /-- Entries made. -/
  materialized : Nat
  /-- Anchors left out. -/
  rejected : Nat
  /-- Entries removed or replaced. -/
  released : Nat
  /-- Why there were no anchors. -/
  sourceError : Option String
  deriving DecidableEq, Repr

/-- The summary of a refresh that did nothing. -/
def Summary.zero : Summary := ⟨0, 0, 0, 0, none⟩

/-- What a repository reports. -/
inductive Event where
  /-- There are no anchors, and the entries are kept. -/
  | sourceFailed (cause : SourceError)
  /-- An anchor came twice, and the last one counts. -/
  | duplicate (entityId : String)
  /-- The anchor of an entry has changed. -/
  | changed (entityId : String)
  /-- No entry could be made. -/
  | refused (entityId : String) (cause : Refusal)
  /-- An entry was made. -/
  | created (entityId location : String) (expiry : Instant) (longest : Duration)
  /-- An entry is released. -/
  | released (entityId : String)
  /-- A refresh is over. -/
  | refreshed (summary : Summary)
  /-- Everything was released. -/
  | shutDown (count : Nat)
  /-- There were no anchors at the start. -/
  | startedEmpty (cause : String)
  deriving DecidableEq, Repr

/-- The report of an event. -/
def Event.record : Event → Log.Record
  | .sourceFailed e =>
    ⟨.error, "Failed to fetch trust anchors, keeping current metadata resolvers",
      [("error", e.message)]⟩
  | .duplicate id =>
    ⟨.warn, "Duplicate trust anchor, using the last one", [("entity_id", id)]⟩
  | .changed id =>
    ⟨.info, "Trust anchor changed, rebuilding metadata resolver", [("entity_id", id)]⟩
  | .refused id e =>
    ⟨.error, "Failed to create metadata resolver for trust anchor",
      [("entity_id", id), ("error", e.message)]⟩
  | .created id u expiry longest =>
    ⟨.debug, "Created metadata resolver",
      [("entity_id", id), ("uri", u), ("earliest_expiry", expiry.spokenText),
        ("max_refresh_delay", longest.shortText)]⟩
  | .released id => ⟨.debug, "Releasing metadata resolver", [("entity_id", id)]⟩
  | .refreshed s =>
    ⟨.info, "Refreshed metadata resolvers",
      [("reused", toString s.reused), ("materialized", toString s.materialized),
        ("rejected", toString s.rejected), ("released", toString s.released)]⟩
  | .shutDown n => ⟨.info, "Metadata resolver repository shut down", [("released", toString n)]⟩
  | .startedEmpty e => ⟨.warn, "Starting without trust anchors", [("error", e)]⟩

/-- What a repository does outside. -/
inductive Act where
  /-- Ask the validator about a certificate. -/
  | check (c : Certificate)
  /-- Ask for a client. -/
  | client (environment : String) (settings : ResolverSettings)
  /-- Ask for a resolver. -/
  | resolver (settings : ResolverSettings)
  /-- Receive a new resolver under a number. -/
  | made (resolver : Nat) (settings : ResolverSettings)
  /-- Ask for a trust engine over a resolver. -/
  | engine (resolver : Nat)
  /-- Destroy a resolver. -/
  | destroy (resolver : Nat)
  /-- Report something. -/
  | report (event : Event)

/-- Only report something. -/
def reporting (e : Event) : List Act := [.report e]

/-- The event that an act reports. -/
def Act.event? : Act → Option Event
  | .report e => some e
  | _ => none

end Repository

/-- A repository. -/
structure Repository where
  /-- Its settings. -/
  settings : Repository.Settings
  /-- The published state. -/
  snapshot : Repository.Snapshot
  /-- How many resolvers were made so far; the next one has this number. -/
  made : Nat

namespace Repository

/-- A repository that has loaded nothing. -/
def create (settings : Settings) : Repository := ⟨settings, .empty, 0⟩

/-! ## Making entries -/

/-- What comes of making an entry. -/
structure Making where
  /-- The entry, or why there is none. -/
  result : Except Refusal Entry
  /-- How many resolvers were made so far. -/
  made : Nat
  /-- What was done outside. -/
  acts : List Act

/-- Judge the first certificate of a chain. -/
def judge (makers : Makers) (check : Option AnchorCheck) (entityId : String)
    (leaf : Certificate) : Except Refusal Unit × List Act :=
  match check with
  | none => (.ok (), [])
  | some k =>
    match makers.verdict k entityId leaf with
    | .ok () => (.ok (), [.check leaf])
    | .error reason => (.error (.untrusted entityId reason), [.check leaf])

/-- Make client, resolver and engine for an anchor. A resolver without an engine is destroyed. -/
def assemble (makers : Makers) (environment : String) (made : Nat) (anchor : Anchor)
    (expiry : Instant) (settings : ResolverSettings) : Making :=
  let asked : List Act := [.client environment settings]
  match makers.client environment settings with
  | .error e => ⟨.error e, made, asked⟩
  | .ok () =>
    let asked := asked ++ [.resolver settings]
    match makers.resolver settings with
    | .error e => ⟨.error e, made, asked⟩
    | .ok () =>
      let asked := asked ++ [.made made settings, .engine made]
      match makers.engine settings with
      | .error e => ⟨.error e, made + 1, asked ++ [.destroy made]⟩
      | .ok () =>
        ⟨.ok ⟨anchor, made, expiry, settings⟩, made + 1,
          asked ++ [.report (.created anchor.entityId settings.location.text expiry
            settings.delays.longest)]⟩

/-- Make an entry of an anchor. -/
def materialize (s : Settings) (makers : Makers) (now : Instant) (made : Nat) (anchor : Anchor) :
    Making :=
  match anchor.certificates with
  | .error e => ⟨.error (.chain e), made, []⟩
  | .ok [] => ⟨.error (.chain (.empty anchor.entityId)), made, []⟩
  | .ok (leaf :: rest) =>
    let (verdict, checked) := judge makers s.check anchor.entityId leaf
    match verdict with
    | .error e => ⟨.error e, made, checked⟩
    | .ok () =>
      match Certificate.earliestExpiry (leaf :: rest) with
      | none => ⟨.error (.chain (.empty anchor.entityId)), made, checked⟩
      | some expiry =>
        match Location.ofEntity s.base anchor.entityId with
        | .error e => ⟨.error (.location e), made, checked⟩
        | .ok location =>
          let store := TrustStore.ofChain anchor.entityId (leaf :: rest)
          let settings :=
            ResolverSettings.forEntity s.delays location anchor.entityId store expiry now
          let making := assemble makers s.environment made anchor expiry settings
          { making with acts := checked ++ making.acts }

/-! ## Refreshing -/

/-- The last anchor of every entity. -/
def current (anchors : List Anchor) : KeyMap Anchor :=
  anchors.foldl (fun m a => m.insert a.entityId a) .empty

/-- What is reported of anchors that come twice. -/
def duplicates : List String → List Anchor → List Act
  | _, [] => []
  | seen, a :: rest =>
    let later := duplicates (a.entityId :: seen) rest
    if seen.contains a.entityId then .report (.duplicate a.entityId) :: later else later

/-- A refresh in the making. -/
structure Draft where
  /-- The entries so far. -/
  entries : KeyMap Entry
  /-- The anchors left out so far. -/
  rejected : KeyMap Refusal
  /-- The counts so far. -/
  summary : Summary
  /-- How many resolvers were made so far. -/
  made : Nat
  /-- What was done outside so far. -/
  acts : List Act

/-- Keep an entry. -/
def Draft.reuse (d : Draft) (id : String) (entry : Entry) : Draft :=
  { d with
    entries := d.entries.insert id entry
    summary := { d.summary with reused := d.summary.reused + 1 } }

/-- Add what came of making an entry. -/
def Draft.add (d : Draft) (id : String) (making : Making) : Draft :=
  match making.result with
  | .ok entry =>
    { d with
      entries := d.entries.insert id entry
      summary := { d.summary with materialized := d.summary.materialized + 1 }
      made := making.made
      acts := d.acts ++ making.acts }
  | .error e =>
    { d with
      rejected := d.rejected.insert id e
      summary := { d.summary with rejected := d.summary.rejected + 1 }
      made := making.made
      acts := d.acts ++ making.acts ++ reporting (.refused id e) }

/-- Bring one anchor into a refresh. -/
def Draft.bring (s : Settings) (makers : Makers) (now : Instant) (previous : Snapshot) (d : Draft)
    (id : String) (anchor : Anchor) : Draft :=
  match previous.entries.find? id with
  | none => d.add id (materialize s makers now d.made anchor)
  | some entry =>
    if entry.anchor = anchor then d.reuse id entry
    else
      let d := { d with acts := d.acts ++ reporting (.changed id) }
      d.add id (materialize s makers now d.made anchor)

/-- Whether an entry is among others as it is. -/
def isKept (entries : KeyMap Entry) (id : String) (entry : Entry) : Bool :=
  match entries.find? id with
  | some kept => kept.resolver = entry.resolver
  | none => false

/-- What a refresh is going to do. -/
structure Plan where
  /-- What is published. -/
  snapshot : Snapshot
  /-- What is released afterwards. -/
  released : List Entry
  /-- The counts. -/
  summary : Summary
  /-- How many resolvers were made so far. -/
  made : Nat
  /-- What was done outside before publishing. -/
  acts : List Act

/-- Work out a refresh with some anchors, in ascending order of their entities. -/
def plan (r : Repository) (makers : Makers) (now : Instant) (anchors : List Anchor) : Plan :=
  let start : Draft := ⟨.empty, .empty, .zero, r.made, duplicates [] anchors⟩
  let d := (current anchors).entries.foldl
    (fun d (id, anchor) => d.bring r.settings makers now r.snapshot id anchor) start
  let released := (r.snapshot.entries.entries.filter fun (id, entry) =>
    !isKept d.entries id entry).map Prod.snd
  ⟨⟨d.entries, d.rejected, some now⟩, released,
    { d.summary with released := released.length }, d.made, d.acts⟩

/-- Publish what was planned. -/
def publish (r : Repository) (p : Plan) : Repository :=
  { r with snapshot := p.snapshot, made := p.made }

/-- Release an entry. -/
def release (e : Entry) : List Act :=
  [.report (.released e.anchor.entityId), .destroy e.resolver]

/-- What comes of a refresh. -/
structure Outcome where
  /-- The repository afterwards. -/
  repository : Repository
  /-- The counts. -/
  summary : Summary
  /-- What was done outside. -/
  acts : List Act

/-- Bring the entries in line with the answer of the source. Without anchors nothing changes. -/
def refresh (r : Repository) (makers : Makers) (now : Instant)
    (answer : Except SourceError (List Anchor)) : Outcome :=
  match answer with
  | .error e =>
    ⟨r, { Summary.zero with sourceError := some e.message }, [.report (.sourceFailed e)]⟩
  | .ok anchors =>
    let p := r.plan makers now anchors
    ⟨r.publish p, p.summary,
      p.acts ++ p.released.flatMap release ++ reporting (.refreshed p.summary)⟩

/-- What is reported when the first refresh is over. -/
def startEvents (summary : Summary) : List Event :=
  match summary.sourceError with
  | some e => [.startedEmpty e]
  | none => []

/-- Release everything and publish the state without entries. -/
def shutdown (r : Repository) : Repository × List Act :=
  let entries := r.snapshot.entries.values
  ({ r with snapshot := .empty },
    entries.flatMap release ++ reporting (.shutDown entries.length))

/-! ## Questions -/

/-- The entry of an entity. -/
def entry? (r : Repository) (entityId : String) : Option Entry :=
  r.snapshot.entries.find? entityId

/-- The instants at which the entries' chains first expire. -/
def expiries (r : Repository) : List Instant := r.snapshot.entries.values.map Entry.expiry

/-- The earliest of some instants. -/
def earliest : List Instant → Option Instant
  | [] => none
  | t :: rest => some (rest.foldl Instant.earlier t)

/-- When the first chain expires. -/
def earliestExpiry (r : Repository) : Option Instant := earliest r.expiries

/-- When the first chain expires that has not expired at an instant. -/
def nextExpiryAfter (r : Repository) (now : Instant) : Option Instant :=
  earliest (r.expiries.filter fun t => now < t)

/-- Counts for reports. -/
structure Stats where
  /-- The number of entries. -/
  resolvers : Nat
  /-- The number of anchors left out. -/
  rejected : Nat
  /-- The number of entries whose resolver has metadata. -/
  withMetadata : Nat
  /-- When the first chain expires. -/
  earliestExpiry : Option Instant
  /-- When the last refresh took place. -/
  refreshedAt : Option Instant

/-- The counts, given which resolvers have metadata. -/
def stats (r : Repository) (hasMetadata : Nat → Bool) : Stats :=
  ⟨r.snapshot.entries.size, r.snapshot.rejected.size,
    (r.snapshot.entries.values.filter fun e => hasMetadata e.resolver).length,
    r.earliestExpiry, r.snapshot.refreshedAt⟩

end Repository

end AnchoredMetadata
