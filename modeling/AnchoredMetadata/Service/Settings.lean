import AnchoredMetadata.Metadata.Tree
import AnchoredMetadata.Time.Instant
import AnchoredMetadata.TrustStore.Settings

/-!
# Service settings

What a running service is told: where metadata and anchors come from, how often
they are fetched, and what is logged. Times are whole seconds of 64 bits.
-/

namespace AnchoredMetadata.Service

/-- Where metadata comes from. -/
structure MetadataSettings where
  /-- What metadata is published below. -/
  base : String
  /-- Where the service runs. -/
  environment : String
  /-- The least pause between two fetches, in seconds. -/
  leastDelay : UInt64
  /-- The longest pause between two fetches, in seconds. -/
  mostDelay : UInt64
  /-- The roles whose certificates must be vouched for by the anchor of their entity. -/
  roles : List Role
  deriving DecidableEq, Repr

/-- Where anchors come from. -/
structure AnchorSettings where
  /-- The locations in the order in which they are asked. -/
  locations : List String
  /-- How often they are asked, in seconds. -/
  interval : UInt64
  /-- The least pause between two refreshes, in seconds. -/
  leastDelay : UInt64
  /-- The store that vouches for anchors, if they need that. -/
  keystore : Option TrustStoreSettings
  deriving DecidableEq, Repr

/-- What is logged. -/
structure LogSettings where
  /-- The word for the threshold. -/
  level : String
  /-- The word for the format. -/
  format : String
  /-- How often counts are reported, in seconds. -/
  statsInterval : UInt64
  deriving DecidableEq, Repr

/-- The settings of a service. -/
structure Settings where
  /-- Where metadata comes from. -/
  metadata : MetadataSettings
  /-- Where anchors come from. -/
  anchors : AnchorSettings
  /-- What is logged. -/
  logging : LogSettings
  deriving DecidableEq, Repr

/-- What is logged unless settings say otherwise. -/
def LogSettings.standard : LogSettings := ⟨"info", "compact", 300⟩

/-- The settings for a service that has none. -/
def Settings.standard : Settings where
  metadata := ⟨"https://metadata.federation.example/entity", "production", 60, 600, [.identityProvider]⟩
  anchors := ⟨["https://trust-anchors.federation.example/jwks"], 3600, 5, none⟩
  logging := .standard

/-- A number of seconds as a duration. -/
def seconds (n : UInt64) : Time.Duration := .ofSeconds n.toNat

namespace Settings

/-- A line of a description. -/
def line (label value : String) : String := "    " ++ label ++ ": " ++ value ++ "\n"

/-- The settings for a reader. -/
def description (s : Settings) : String :=
  let keystore := match s.anchors.keystore with
    | some k => k.path.shown
    | none => "(none)"
  String.join [
    "Current Internal Configuration State:\n",
    "  Metadata\n",
    line "Source URI" s.metadata.base,
    line "Environment" s.metadata.environment,
    line "Min Refresh Delay (s)" (toString s.metadata.leastDelay.toNat),
    line "Max Refresh Delay (s)" (toString s.metadata.mostDelay.toNat),
    line "Filtered Roles" (", ".intercalate (s.metadata.roles.map Role.elementName)),
    "  Trust Anchors\n",
    line "URIs" (", ".intercalate s.anchors.locations),
    line "Refresh Interval (s)" (toString s.anchors.interval.toNat),
    line "Keystore" keystore,
    "  Logging\n",
    line "Level" s.logging.level,
    line "Format" s.logging.format]

end Settings

end AnchoredMetadata.Service
