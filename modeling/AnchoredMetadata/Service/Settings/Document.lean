import AnchoredMetadata.Service.Settings
import AnchoredMetadata.Toml.Document
import AnchoredMetadata.Toml.Writer

/-!
# Settings as TOML

Settings are written as one table for each part, and a table for the keystore
if there is one. Reading takes the parts from tables or from lists in the same
order; the part about logging may be missing as a whole.
-/

namespace AnchoredMetadata.Service

open Toml

/-! ## Writing -/

/-- Why settings cannot be written. -/
inductive WriteFault where
  /-- A number of seconds is too large. -/
  | numberOutOfRange
  /-- The path of the keystore is no text. -/
  | pathNotText
  deriving DecidableEq, Repr

/-- The wording of a fault. -/
def WriteFault.message : WriteFault → String
  | .numberOutOfRange => "out-of-range value for u64 type"
  | .pathNotText => "path contains invalid UTF-8 characters"

/-- A number of seconds. -/
def secondsContent (n : UInt64) : Except WriteFault Content :=
  if n.toNat < limit then .ok (.integer n.toNat) else .error .numberOutOfRange

namespace MetadataSettings

/-- The table of this part. -/
def block (s : MetadataSettings) : Except WriteFault Block := do
  return ⟨["metadata"], [
    ("source_uri", .text s.base),
    ("environment", .text s.environment),
    ("min_refresh_delay_secs", ← secondsContent s.leastDelay),
    ("max_refresh_delay_secs", ← secondsContent s.mostDelay),
    ("filter_roles", .texts (s.roles.map Role.elementName))]⟩

end MetadataSettings

/-- The table of the keystore. -/
def keystoreBlock (k : TrustStoreSettings) : Except WriteFault Block :=
  match k.path.text? with
  | none => .error .pathNotText
  | some path =>
    .ok ⟨["trust_anchors", "keystore"],
      ("path", .text path) :: (k.name.map fun name => ("name", .text name)).toList⟩

namespace AnchorSettings

/-- The tables of this part. -/
def blocks (s : AnchorSettings) : Except WriteFault (List Block) := do
  let own : Block := ⟨["trust_anchors"], [
    ("uris", .texts s.locations),
    ("refresh_interval_secs", ← secondsContent s.interval),
    ("min_refresh_delay_secs", ← secondsContent s.leastDelay)]⟩
  match s.keystore with
  | none => return [own]
  | some k => return [own, ← keystoreBlock k]

end AnchorSettings

namespace LogSettings

/-- The table of this part. -/
def block (s : LogSettings) : Except WriteFault Block := do
  return ⟨["logging"], [
    ("level", .text s.level),
    ("format", .text s.format),
    ("stats_interval_secs", ← secondsContent s.statsInterval)]⟩

end LogSettings

namespace Settings

/-- The tables of settings. -/
def blocks (s : Settings) : Except WriteFault (List Block) := do
  let metadata ← s.metadata.block
  let anchors ← s.anchors.blocks
  let logging ← s.logging.block
  return metadata :: anchors ++ [logging]

/-- Settings as a document. -/
def write (s : Settings) : Except WriteFault (List Char) := s.blocks.map Toml.write

end Settings

/-! ## Reading -/

/-- A list of values that are all read in one way. -/
def listOf? {α : Type} (item : Value → Option α) (v : Value) : Option (List α) :=
  v.items?.bind fun items => items.mapM item

/-- A number of seconds. -/
def seconds? (v : Value) : Option UInt64 := v.count?.map UInt64.ofNat

/-- A role by its element name. -/
def role? : Value → Option Role := Value.choice? (Role.all.map fun r => (r.elementName, r))

/-- The metadata part in a value. -/
def MetadataSettings.ofValue? (v : Value) : Option MetadataSettings := do
  match ← v.record? [["source_uri"], ["environment"], ["min_refresh_delay_secs"],
      ["max_refresh_delay_secs"], ["filter_roles"]] with
  | [some base, some environment, some least, some most, some roles] =>
    return ⟨← base.text?, ← environment.text?, ← seconds? least, ← seconds? most,
      ← listOf? role? roles⟩
  | _ => none

/-- The settings of a keystore in a value. -/
def keystore? (v : Value) : Option TrustStoreSettings := do
  match ← v.record? [["path", "trust_store_path"], ["name"]] with
  | [some path, none] => return ⟨.ofText (← path.text?), none⟩
  | [some path, some name] => return ⟨.ofText (← path.text?), some (← name.text?)⟩
  | _ => none

/-- The anchor part in a value. -/
def AnchorSettings.ofValue? (v : Value) : Option AnchorSettings := do
  match ← v.record? [["uris"], ["refresh_interval_secs"], ["min_refresh_delay_secs"],
      ["keystore"]] with
  | [some locations, some interval, some least, keystore] =>
    let k ← match keystore with
      | none => some none
      | some k => (keystore? k).map some
    return ⟨← listOf? Value.text? locations, ← seconds? interval, ← seconds? least, k⟩
  | _ => none

/-- The logging part in a value. -/
def LogSettings.ofValue? (v : Value) : Option LogSettings := do
  match ← v.record? [["level"], ["format"], ["stats_interval_secs"]] with
  | [some level, some format, some interval] =>
    return ⟨← level.text?, ← format.text?, ← seconds? interval⟩
  | _ => none

namespace Settings

/-- The settings in the members of a document's root. -/
def ofMembers? (members : Members) : Option Settings := do
  match ← [["metadata"], ["trust_anchors"], ["logging"]].mapM (field? members) with
  | [some metadata, some anchors, logging] =>
    let l ← match logging with
      | none => some LogSettings.standard
      | some l => LogSettings.ofValue? l
    return ⟨← MetadataSettings.ofValue? metadata, ← AnchorSettings.ofValue? anchors, l⟩
  | _ => none

/-- Read a document that holds settings. -/
def read? (document : List Char) : Option Settings := (Toml.read document).bind ofMembers?

end Settings

end AnchoredMetadata.Service
