import AnchoredMetadata.TrustStore
import AnchoredMetadata.Url

/-!
# Resolver settings

What a resolver is told about its entity. The pauses between two fetches are
bounded by the time that is left until the first certificate of the entity's
chain ends.
-/

namespace AnchoredMetadata

open Time

/-- Bounds for the pause between two fetches. -/
structure Delays where
  /-- The pause after a failure. -/
  shortest : Duration
  /-- The pause after a success. -/
  longest : Duration
  deriving DecidableEq, Repr

namespace Delays

/-- A minute, and ten. -/
def standard : Delays := ⟨.ofSeconds 60, .ofSeconds 600⟩

/-- Bounds that do not reach past an expiry: the longest pause is at most the time left, which is
zero after the expiry, and the shortest at most the longest. -/
def cappedAt (d : Delays) (expiry now : Instant) : Delays :=
  let longest := d.longest.shorter (expiry.since now)
  ⟨d.shortest.shorter longest, longest⟩

/-- No pause is shorter than this. -/
def floor : Duration := .ofSeconds 1

/-- Bounds of at least a second. -/
def raised (d : Delays) : Delays := ⟨d.shortest.longer floor, d.longest.longer floor⟩

end Delays

/-- What a resolver needs to know. -/
structure ResolverSettings where
  /-- Where the metadata is published. -/
  location : Url
  /-- The entity that the metadata is about. -/
  entityId : String
  /-- The certificates of the entity's chain. -/
  store : TrustStore
  /-- Bounds for the pause between two fetches. -/
  delays : Delays

/-- The settings for an entity whose chain first expires at `expiry`. -/
def ResolverSettings.forEntity (delays : Delays) (location : Url) (entityId : String)
    (store : TrustStore) (expiry now : Instant) : ResolverSettings :=
  ⟨location, entityId, store, delays.cappedAt expiry now⟩

end AnchoredMetadata
