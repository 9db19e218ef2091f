import AnchoredMetadata.Log.Record
import AnchoredMetadata.Metadata.Document
import AnchoredMetadata.Metadata.Filter
import AnchoredMetadata.Reply
import AnchoredMetadata.Resolver.Settings

/-!
# Resolvers

A resolver polls one location and publishes what its filters leave of the last
document it could read. A poll is a sequence of steps, between which the
resolver may be destroyed: asking to stop takes effect where the poll waits, for
a reply or in a pause, and then the published metadata is withdrawn.
-/

namespace AnchoredMetadata

open Time

/-- Why a poll published nothing. -/
inductive PollError where
  /-- The request failed. -/
  | request (cause : RequestError)
  /-- The document is no metadata. -/
  | unreadable (cause : Json.Fault)
  deriving DecidableEq, Repr

/-- The wording of a failed poll. -/
def PollError.message : PollError → String
  | .request e => e.message
  | .unreadable e => Metadata.faultText e

/-- Where polling stands. -/
inductive Resolver.Phase where
  /-- A request is under way. -/
  | waiting
  /-- A document has come. -/
  | received (document : List UInt8)
  /-- The document was read and filtered. -/
  | filtered (left : Option Metadata)
  /-- What was left is published; the time is not noted yet. -/
  | published
  /-- Nothing happens until an instant. -/
  | pausing (wakeAt : Instant)
  /-- Polling has stopped. -/
  | stopped

/-- A resolver. -/
structure Resolver where
  /-- What it was told. -/
  settings : ResolverSettings
  /-- What every document passes through. -/
  filters : List ChainFilter
  /-- Where polling stands. -/
  phase : Resolver.Phase
  /-- Whether polling was asked to stop. -/
  stopRequested : Bool
  /-- The published metadata. -/
  metadata : Option Metadata
  /-- When a document was last published. -/
  refreshedAt : Option Instant

namespace Resolver

/-- A resolver with a request under way. With `requireValid` its documents are filtered for each
of `roles` against the resolver's own store. -/
def start (settings : ResolverSettings) (requireValid : Bool) (roles : List Role)
    (validator : Validator) : Resolver :=
  ⟨settings, if requireValid then ChainFilter.forRoles roles validator settings.store else [],
    .waiting, false, none, none⟩

/-- The roles that are checked unless others are given. -/
def standardRoles : List Role := [.identityProvider]

/-- The name of a resolver in reports. -/
def id (r : Resolver) : String := r.settings.entityId

/-- The published entity with an identifier. -/
def entity? (r : Resolver) (id : String) : Option Entity := r.metadata.bind fun m => m.find? id

/-- The pause after a poll. -/
def pauseAfter (r : Resolver) (success : Bool) : Duration :=
  if success then r.settings.delays.raised.longest else r.settings.delays.raised.shortest

/-- Begin a pause; a resolver that was asked to stop does so instead. -/
def pause (r : Resolver) (success : Bool) (now : Instant) : Resolver :=
  if r.stopRequested then { r with phase := .stopped }
  else { r with phase := .pausing (now.after (r.pauseAfter success)) }

/-! ## Steps of a poll -/

/-- A reply comes. -/
def receive (reply : Reply) (now : Instant) (r : Resolver) : Resolver :=
  match r.phase with
  | .waiting =>
    match reply.document with
    | .ok document => { r with phase := .received document }
    | .error _ => r.pause false now
  | _ => r

/-- The document is read and filtered. -/
def process (now : Instant) (r : Resolver) : Resolver :=
  match r.phase with
  | .received document =>
    match Metadata.read document with
    | .ok m => { r with phase := .filtered (ChainFilter.runAll r.filters m).metadata }
    | .error _ => r.pause false now
  | _ => r

/-- What is left is published. -/
def publish (r : Resolver) : Resolver :=
  match r.phase with
  | .filtered left => { r with phase := .published, metadata := left }
  | _ => r

/-- The time is noted, and a pause begins. -/
def note (now : Instant) (r : Resolver) : Resolver :=
  match r.phase with
  | .published => { r with refreshedAt := some now }.pause true now
  | _ => r

/-- The next request is made when the pause is over. -/
def wake (now : Instant) (r : Resolver) : Resolver :=
  match r.phase with
  | .pausing instant => if instant ≤ now then { r with phase := .waiting } else r
  | _ => r

/-- All steps of a poll from the reply to the pause. -/
def poll (reply : Reply) (now : Instant) (r : Resolver) : Resolver :=
  (((r.receive reply now).process now).publish).note now

/-! ## Destroying -/

/-- Ask polling to stop; where it waits it stops at once. -/
def requestStop (r : Resolver) : Resolver :=
  match r.phase with
  | .waiting => { r with phase := .stopped, stopRequested := true }
  | .pausing _ => { r with phase := .stopped, stopRequested := true }
  | _ => { r with stopRequested := true }

/-- Withdraw what is published. -/
def withdraw (r : Resolver) : Resolver := { r with metadata := none }

/-- Stop polling and withdraw what is published. -/
def destroy (r : Resolver) : Resolver := r.requestStop.withdraw

/-! ## Reports -/

/-- What a resolver reports. -/
inductive Event where
  /-- Polling has begun. -/
  | started (id : String) (location : Url)
  /-- Metadata was published. -/
  | published (id : String) (entities : Nat)
  /-- A document was published of which nothing is left. -/
  | nothingLeft (id : String)
  /-- A poll failed. -/
  | failed (id : String) (location : Url) (cause : PollError)
  /-- Polling was stopped. -/
  | stopped (id : String)
  /-- A filter reported something. -/
  | filter (event : ChainFilter.Event)
  deriving DecidableEq, Repr

/-- The report of an event. -/
def Event.record : Event → Log.Record
  | .started id u => ⟨.info, "Started metadata resolver", [("resolver", id), ("uri", u.text)]⟩
  | .published id n =>
    ⟨.debug, "Published metadata", [("resolver", id), ("entities", toString n)]⟩
  | .nothingLeft id => ⟨.warn, "No trusted metadata left after filtering", [("resolver", id)]⟩
  | .failed id u e =>
    ⟨.warn, "Metadata refresh failed",
      [("resolver", id), ("uri", u.text), ("error", e.message)]⟩
  | .stopped id => ⟨.info, "Stopped metadata resolver", [("resolver", id)]⟩
  | .filter e => e.record

/-- What comes of a document: what filters leave of it, their reports and the certificates their
validators were asked about. -/
def outcome (r : Resolver) (reply : Reply) : Except PollError ChainFilter.Outcome :=
  match reply.document with
  | .error e => .error (.request e)
  | .ok document =>
    match Metadata.read document with
    | .error e => .error (.unreadable e)
    | .ok m => .ok (ChainFilter.runAll r.filters m)

/-- What a poll reports. -/
def pollEvents (r : Resolver) (reply : Reply) : List Event :=
  match r.outcome reply with
  | .error e => [.failed r.id r.settings.location e]
  | .ok o =>
    o.events.map .filter ++
      [match o.metadata with
        | some m => .published r.id m.entities.length
        | none => .nothingLeft r.id]

end Resolver

end AnchoredMetadata
