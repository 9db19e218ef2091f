import AnchoredMetadata.Anchor.KeySet
import AnchoredMetadata.Log.Record
import AnchoredMetadata.Reply
import AnchoredMetadata.Url

/-!
# Where anchors come from

A source asks its locations in order until one answers with a set of keys. It
remembers the last set it received and gives that one when no location answers,
so an outage never empties it.
-/

namespace AnchoredMetadata

/-- Why there are no anchors. -/
inductive SourceError where
  /-- The source cannot say anything. -/
  | unavailable (reason : String)
  /-- A request failed. -/
  | request (cause : RequestError)
  /-- A document is not a set of keys. -/
  | unreadable (cause : Json.Fault)
  deriving DecidableEq, Repr

/-- The wording of a failure. -/
def SourceError.message : SourceError → String
  | .unavailable reason => "trust anchor source unavailable: " ++ reason
  | .request e => e.message
  | .unreadable e => Anchor.faultText e

/-- A source with its locations. -/
structure AnchorSource where
  /-- The locations in the order in which they are asked. -/
  locations : List Url
  /-- The anchors received last. -/
  lastKnown : Option (List Anchor)

namespace AnchorSource

/-- A source that has received nothing. -/
def ofLocations (locations : List Url) : AnchorSource := ⟨locations, none⟩

/-- What a source reports. -/
inductive Event where
  /-- Anchors were received. -/
  | received (location : Url) (count : Nat)
  /-- A location gave no anchors. -/
  | failed (location : Url) (cause : SourceError)
  /-- No location answered, and the last anchors are given again. -/
  | servedLastKnown (count : Nat)
  deriving DecidableEq, Repr

/-- The report of an event. -/
def Event.record : Event → Log.Record
  | .received u n => ⟨.info, "Fetched trust anchors", [("uri", u.text), ("count", toString n)]⟩
  | .failed u e =>
    ⟨.warn, "Failed to fetch trust anchors", [("uri", u.text), ("error", e.message)]⟩
  | .servedLastKnown n =>
    ⟨.warn, "All trust anchor sources failed, serving last known anchors",
      [("count", toString n)]⟩

/-- The anchors in a reply. -/
def readReply (reply : Reply) : Except SourceError (List Anchor) :=
  match reply.document with
  | .error e => .error (.request e)
  | .ok document =>
    match Anchor.readSet document with
    | .error e => .error (.unreadable e)
    | .ok anchors => .ok anchors

/-- What comes of asking locations in order. -/
structure Round where
  /-- The first anchors received, or the last failure if there was any. -/
  result : Except (Option SourceError) (List Anchor)
  /-- How many locations were asked. -/
  asked : Nat
  /-- What was reported. -/
  events : List Event

/-- Ask locations in order until one answers. `failure` is the last failure before. -/
def ask (failure : Option SourceError) : List (Url × Reply) → Round
  | [] => ⟨.error failure, 0, []⟩
  | (location, reply) :: rest =>
    match readReply reply with
    | .ok anchors => ⟨.ok anchors, 1, [.received location anchors.length]⟩
    | .error e =>
      let later := ask (some e) rest
      ⟨later.result, later.asked + 1, .failed location e :: later.events⟩

/-- What comes of asking a source. -/
structure Outcome where
  /-- The anchors, or why there are none. -/
  result : Except SourceError (List Anchor)
  /-- The source afterwards. -/
  source : AnchorSource
  /-- How many locations were asked. -/
  asked : Nat
  /-- What was reported. -/
  events : List Event

/-- Ask a source; `reply` tells what comes back for the location at a position. -/
def fetch (source : AnchorSource) (reply : Nat → Reply) : Outcome :=
  let round := ask none (source.locations.zipIdx.map fun (u, i) => (u, reply i))
  match round.result with
  | .ok anchors => ⟨.ok anchors, { source with lastKnown := some anchors }, round.asked, round.events⟩
  | .error failure =>
    match source.lastKnown with
    | some anchors =>
      ⟨.ok anchors, source, round.asked, round.events ++ [.servedLastKnown anchors.length]⟩
    | none =>
      ⟨.error (failure.getD (.unavailable "no trust anchor uris configured")), source, round.asked,
        round.events⟩

end AnchorSource

end AnchoredMetadata
