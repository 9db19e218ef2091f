import AnchoredMetadata.Proofs.Disk.Path
import AnchoredMetadata.Proofs.Except
import AnchoredMetadata.Proofs.Toml.Document
import AnchoredMetadata.Service.Settings.Document

/-!
# Settings read back from a document

Settings are written if documents can hold their numbers and the path of the keystore is text, and
for no other reason they are not. What is written is read as the same settings, with or without a
keystore.
-/

namespace AnchoredMetadata.Service

open Toml

/-! ## Numbers of seconds -/

/-- A number of seconds that documents can hold. -/
def IsHeld (n : UInt64) : Prop := n.toNat < 2 ^ 63

instance (n : UInt64) : Decidable (IsHeld n) := inferInstanceAs (Decidable (_ < _))

theorem secondsContent_eq_ok_iff {n : UInt64} {c : Content} :
    secondsContent n = .ok c ↔ IsHeld n ∧ c = .integer n.toNat := by
  by_cases hn : IsHeld n
  · have hlimit : n.toNat < limit := hn
    simp [secondsContent, hlimit, hn, eq_comm]
  · have hlimit : ¬ n.toNat < limit := hn
    simp [secondsContent, hlimit, hn]

theorem IsHeld.isCount {n : UInt64} (h : IsHeld n) : (Content.integer n.toNat).IsCount :=
  ⟨n.toNat, h, rfl⟩

theorem seconds?_integer (n : UInt64) : seconds? (.integer n.toNat) = some n := by
  simp [seconds?, Value.count?]

/-! ## Lists -/

theorem listOf?_texts {α : Type} {item : Value → Option α} {word : α → String}
    (h : ∀ a, item (.text (word a)) = some a) (items : List α) :
    listOf? item (Content.texts (items.map word)).value = some items := by
  rw [Content.value, listOf?, Value.items?, Option.bind_some, List.map_map]
  induction items with
  | nil => rfl
  | cons a items ih =>
    rw [List.map_cons, List.mapM_cons, ih]
    simp [h]

theorem role?_elementName (r : Role) : role? (.text r.elementName) = some r := by
  cases r <;> rfl

/-! ## The parts -/

/-- The table of the metadata part. -/
def MetadataSettings.table (s : MetadataSettings) : Block := ⟨["metadata"], [
    ("source_uri", .text s.base),
    ("environment", .text s.environment),
    ("min_refresh_delay_secs", .integer s.leastDelay.toNat),
    ("max_refresh_delay_secs", .integer s.mostDelay.toNat),
    ("filter_roles", .texts (s.roles.map Role.elementName))]⟩

theorem MetadataSettings.block_eq_ok_iff {s : MetadataSettings} {b : Block} :
    s.block = .ok b ↔ (IsHeld s.leastDelay ∧ IsHeld s.mostDelay) ∧ b = s.table := by
  constructor
  · intro h
    obtain ⟨c, hc, h⟩ := bind_eq_ok h
    obtain ⟨d, hd, h⟩ := bind_eq_ok h
    obtain ⟨hleast, rfl⟩ := secondsContent_eq_ok_iff.mp hc
    obtain ⟨hmost, rfl⟩ := secondsContent_eq_ok_iff.mp hd
    exact ⟨⟨hleast, hmost⟩, (Except.ok.inj h).symm⟩
  · rintro ⟨⟨hleast, hmost⟩, rfl⟩
    rw [block, secondsContent_eq_ok_iff.mpr ⟨hleast, rfl⟩,
      secondsContent_eq_ok_iff.mpr ⟨hmost, rfl⟩]
    rfl

theorem MetadataSettings.table_isWritable {s : MetadataSettings}
    (h : IsHeld s.leastDelay ∧ IsHeld s.mostDelay) :
    s.table.IsWritable ∧ s.table.HasDistinctKeys := by
  have hpath : s.table.path = ["metadata"] := rfl
  have hkeys : s.table.keys = ["source_uri", "environment", "min_refresh_delay_secs",
      "max_refresh_delay_secs", "filter_roles"] := rfl
  have hcounts : ∀ pair ∈ s.table.pairs, pair.2.IsCount := by
    simp only [table, List.forall_mem_cons]
    exact ⟨trivial, trivial, h.1.isCount, h.2.isCount, trivial, nofun⟩
  exact Block.isWritable_of_names hpath hkeys (by decide) (by decide) hcounts

theorem MetadataSettings.ofValue?_table (s : MetadataSettings) :
    ofValue? (.table .header s.table.members) = some s := by
  have hfields : (Value.table .header s.table.members).record? [["source_uri"], ["environment"],
      ["min_refresh_delay_secs"], ["max_refresh_delay_secs"], ["filter_roles"]] =
      some [some (.text s.base), some (.text s.environment), some (.integer s.leastDelay.toNat),
        some (.integer s.mostDelay.toNat),
        some (Content.texts (s.roles.map Role.elementName)).value] := rfl
  have hroles := listOf?_texts role?_elementName s.roles
  rw [ofValue?, hfields]
  simp [Value.text?, seconds?_integer, hroles]

/-- The table of a keystore. -/
def keystoreTable (path : String) (name : Option String) : Block :=
  ⟨["trust_anchors", "keystore"],
    ("path", .text path) :: (name.map fun name => ("name", .text name)).toList⟩

/-- The tables of the keystore: there is one if there is a keystore, and its path is text. -/
inductive KeystoreTables : Option TrustStoreSettings → List Block → Prop where
  /-- There is no keystore. -/
  | absent : KeystoreTables none []
  /-- There is one. -/
  | present (path : String) (name : Option String) :
    KeystoreTables (some ⟨.ofText path, name⟩) [keystoreTable path name]

theorem KeystoreTables.isWritable {keystore : Option TrustStoreSettings} {tables : List Block}
    (h : KeystoreTables keystore tables) {b : Block} (hb : b ∈ tables) :
    b.IsWritable ∧ b.HasDistinctKeys := by
  cases h with
  | absent => cases hb
  | present path name =>
    obtain rfl := List.mem_singleton.mp hb
    have hpath : (keystoreTable path name).path = ["trust_anchors", "keystore"] := rfl
    cases name with
    | none =>
      have hkeys : (keystoreTable path none).keys = ["path"] := rfl
      have hcounts : ∀ pair ∈ (keystoreTable path none).pairs, pair.2.IsCount := by
        simp [keystoreTable, Content.IsCount]
      exact Block.isWritable_of_names hpath hkeys (by decide) (by decide) hcounts
    | some name =>
      have hkeys : (keystoreTable path (some name)).keys = ["path", "name"] := rfl
      have hcounts : ∀ pair ∈ (keystoreTable path (some name)).pairs, pair.2.IsCount := by
        simp [keystoreTable, Content.IsCount]
      exact Block.isWritable_of_names hpath hkeys (by decide) (by decide) hcounts

theorem KeystoreTables.exists_path {keystore : Option TrustStoreSettings} {tables : List Block}
    (h : KeystoreTables keystore tables) (k : TrustStoreSettings) (hk : keystore = some k) :
    ∃ path, k.path = .ofText path := by
  cases h with
  | absent => cases hk
  | present path name =>
    obtain rfl := Option.some.inj hk
    exact ⟨path, rfl⟩

theorem keystoreBlock_eq_ok_iff {k : TrustStoreSettings} {b : Block} :
    keystoreBlock k = .ok b ↔ KeystoreTables (some k) [b] := by
  obtain ⟨path, name⟩ := k
  constructor
  · intro h
    rw [keystoreBlock] at h
    split at h
    · cases h
    · next text htext =>
      obtain rfl := (Except.ok.inj h).symm
      obtain rfl := Disk.Path.eq_ofText_of_text? htext
      exact .present text name
  · rintro ⟨text, name⟩
    rw [keystoreBlock, Disk.Path.text?_ofText]
    rfl

/-- The table of the anchor part without the keystore. -/
def AnchorSettings.table (s : AnchorSettings) : Block := ⟨["trust_anchors"], [
    ("uris", .texts s.locations),
    ("refresh_interval_secs", .integer s.interval.toNat),
    ("min_refresh_delay_secs", .integer s.leastDelay.toNat)]⟩

theorem AnchorSettings.blocks_eq_ok_iff {s : AnchorSettings} {blocks : List Block} :
    s.blocks = .ok blocks ↔ (IsHeld s.interval ∧ IsHeld s.leastDelay) ∧
      ∃ more, KeystoreTables s.keystore more ∧ blocks = s.table :: more := by
  constructor
  · intro h
    obtain ⟨c, hc, h⟩ := bind_eq_ok h
    obtain ⟨d, hd, h⟩ := bind_eq_ok h
    obtain ⟨hinterval, rfl⟩ := secondsContent_eq_ok_iff.mp hc
    obtain ⟨hleast, rfl⟩ := secondsContent_eq_ok_iff.mp hd
    refine ⟨⟨hinterval, hleast⟩, ?_⟩
    split at h
    · next hnone =>
      exact ⟨[], hnone ▸ .absent, (Except.ok.inj h).symm⟩
    · next k hsome =>
      obtain ⟨b, hb, h⟩ := bind_eq_ok h
      exact ⟨[b], hsome ▸ keystoreBlock_eq_ok_iff.mp hb, (Except.ok.inj h).symm⟩
  · rintro ⟨⟨hinterval, hleast⟩, more, hmore, rfl⟩
    obtain ⟨locations, interval, leastDelay, keystore⟩ := s
    rw [blocks, secondsContent_eq_ok_iff.mpr ⟨hinterval, rfl⟩,
      secondsContent_eq_ok_iff.mpr ⟨hleast, rfl⟩]
    cases hmore with
    | absent => rfl
    | present path name =>
      have hblock := keystoreBlock_eq_ok_iff.mpr (.present path name)
      dsimp only
      rw [hblock]
      rfl

theorem AnchorSettings.table_isWritable {s : AnchorSettings}
    (h : IsHeld s.interval ∧ IsHeld s.leastDelay) :
    s.table.IsWritable ∧ s.table.HasDistinctKeys := by
  have hpath : s.table.path = ["trust_anchors"] := rfl
  have hkeys : s.table.keys = ["uris", "refresh_interval_secs", "min_refresh_delay_secs"] := rfl
  have hcounts : ∀ pair ∈ s.table.pairs, pair.2.IsCount := by
    simp only [table, List.forall_mem_cons]
    exact ⟨trivial, h.1.isCount, h.2.isCount, nofun⟩
  exact Block.isWritable_of_names hpath hkeys (by decide) (by decide) hcounts

/-- The member for the keystore among those of the anchor part. -/
def keystoreMember (tables : List Block) : Members :=
  tables.map fun b => ("keystore", .table .header b.members)

theorem keystore?_table (path : String) (name : Option String) :
    keystore? (.table .header (keystoreTable path name).members) =
      some ⟨.ofText path, name⟩ := by
  cases name <;> rfl

theorem AnchorSettings.ofValue?_table {s : AnchorSettings} {more : List Block}
    (hmore : KeystoreTables s.keystore more) :
    ofValue? (.table .header (s.table.members ++ keystoreMember more)) = some s := by
  obtain ⟨locations, interval, leastDelay, keystore⟩ := s
  have hlocations := @listOf?_texts _ Value.text? id (fun _ => rfl) locations
  rw [List.map_id] at hlocations
  cases hmore with
  | absent =>
    have hfields : (Value.table .header ((table ⟨locations, interval, leastDelay, none⟩).members ++
        keystoreMember [])).record? [["uris"], ["refresh_interval_secs"],
          ["min_refresh_delay_secs"], ["keystore"]] =
        some [some (Content.texts locations).value, some (.integer interval.toNat),
          some (.integer leastDelay.toNat), none] := rfl
    rw [ofValue?, hfields]
    simp [hlocations, seconds?_integer]
  | present path name =>
    have hfields : (Value.table .header
        ((table ⟨locations, interval, leastDelay, some ⟨.ofText path, name⟩⟩).members ++
          keystoreMember [keystoreTable path name])).record? [["uris"], ["refresh_interval_secs"],
            ["min_refresh_delay_secs"], ["keystore"]] =
        some [some (Content.texts locations).value, some (.integer interval.toNat),
          some (.integer leastDelay.toNat),
          some (.table .header (keystoreTable path name).members)] := rfl
    rw [ofValue?, hfields]
    simp [hlocations, seconds?_integer, keystore?_table]

/-- The table of the logging part. -/
def LogSettings.table (s : LogSettings) : Block := ⟨["logging"], [
    ("level", .text s.level),
    ("format", .text s.format),
    ("stats_interval_secs", .integer s.statsInterval.toNat)]⟩

theorem LogSettings.block_eq_ok_iff {s : LogSettings} {b : Block} :
    s.block = .ok b ↔ IsHeld s.statsInterval ∧ b = s.table := by
  constructor
  · intro h
    obtain ⟨c, hc, h⟩ := bind_eq_ok h
    obtain ⟨hinterval, rfl⟩ := secondsContent_eq_ok_iff.mp hc
    exact ⟨hinterval, (Except.ok.inj h).symm⟩
  · rintro ⟨hinterval, rfl⟩
    rw [block, secondsContent_eq_ok_iff.mpr ⟨hinterval, rfl⟩]
    rfl

theorem LogSettings.table_isWritable {s : LogSettings} (h : IsHeld s.statsInterval) :
    s.table.IsWritable ∧ s.table.HasDistinctKeys := by
  have hpath : s.table.path = ["logging"] := rfl
  have hkeys : s.table.keys = ["level", "format", "stats_interval_secs"] := rfl
  have hcounts : ∀ pair ∈ s.table.pairs, pair.2.IsCount := by
    simp only [table, List.forall_mem_cons]
    exact ⟨trivial, trivial, h.isCount, nofun⟩
  exact Block.isWritable_of_names hpath hkeys (by decide) (by decide) hcounts

theorem LogSettings.ofValue?_table (s : LogSettings) :
    ofValue? (.table .header s.table.members) = some s := by
  have hfields : (Value.table .header s.table.members).record? [["level"], ["format"],
      ["stats_interval_secs"]] = some [some (.text s.level), some (.text s.format),
        some (.integer s.statsInterval.toNat)] := rfl
  rw [ofValue?, hfields]
  simp [Value.text?, seconds?_integer]

/-! ## Documents -/

namespace Settings

/-- Settings that documents can hold: every number of seconds is one, and the path of the keystore,
if there is one, is text. -/
structure IsHeld (s : Settings) : Prop where
  /-- The numbers of the metadata part. -/
  metadata : Service.IsHeld s.metadata.leastDelay ∧ Service.IsHeld s.metadata.mostDelay
  /-- Those of the anchor part. -/
  anchors : Service.IsHeld s.anchors.interval ∧ Service.IsHeld s.anchors.leastDelay
  /-- That of the logging part. -/
  logging : Service.IsHeld s.logging.statsInterval
  /-- The path of the keystore. -/
  keystore : ∀ k, s.anchors.keystore = some k → ∃ path, k.path = .ofText path

theorem IsHeld.exists_keystoreTables {s : Settings} (h : s.IsHeld) :
    ∃ more, KeystoreTables s.anchors.keystore more := by
  cases hk : s.anchors.keystore with
  | none => exact ⟨[], .absent⟩
  | some k =>
    obtain ⟨path, name⟩ := k
    obtain ⟨text, rfl⟩ := h.keystore _ hk
    exact ⟨_, .present text name⟩

/-- The tables that are written for settings. -/
def tables (s : Settings) (more : List Block) : List Block :=
  s.metadata.table :: s.anchors.table :: more ++ [s.logging.table]

theorem blocks_eq_ok_iff {s : Settings} {blocks : List Block} :
    s.blocks = .ok blocks ↔
      s.IsHeld ∧ ∃ more, KeystoreTables s.anchors.keystore more ∧ blocks = s.tables more := by
  constructor
  · intro h
    obtain ⟨m, hm, h⟩ := bind_eq_ok h
    obtain ⟨a, ha, h⟩ := bind_eq_ok h
    obtain ⟨l, hl, h⟩ := bind_eq_ok h
    obtain ⟨hmetadata, rfl⟩ := MetadataSettings.block_eq_ok_iff.mp hm
    obtain ⟨hanchors, more, hmore, rfl⟩ := AnchorSettings.blocks_eq_ok_iff.mp ha
    obtain ⟨hlogging, rfl⟩ := LogSettings.block_eq_ok_iff.mp hl
    exact ⟨⟨hmetadata, hanchors, hlogging, hmore.exists_path⟩, more, hmore,
      (Except.ok.inj h).symm⟩
  · rintro ⟨⟨hmetadata, hanchors, hlogging, -⟩, more, hmore, rfl⟩
    rw [Settings.blocks, MetadataSettings.block_eq_ok_iff.mpr ⟨hmetadata, rfl⟩,
      AnchorSettings.blocks_eq_ok_iff.mpr ⟨hanchors, more, hmore, rfl⟩,
      LogSettings.block_eq_ok_iff.mpr ⟨hlogging, rfl⟩]
    rfl

theorem isWritable_of_mem_tables {s : Settings} (h : s.IsHeld) {more : List Block}
    (hmore : KeystoreTables s.anchors.keystore more) {b : Block} (hb : b ∈ s.tables more) :
    b.IsWritable ∧ b.HasDistinctKeys := by
  simp only [tables, List.cons_append, List.mem_cons, List.mem_append, List.not_mem_nil,
    or_false] at hb
  rcases hb with rfl | rfl | hb | rfl
  · exact MetadataSettings.table_isWritable h.metadata
  · exact AnchorSettings.table_isWritable h.anchors
  · exact hmore.isWritable hb
  · exact LogSettings.table_isWritable h.logging

theorem foldlM_addTable_tables {s : Settings} {keystore : Option TrustStoreSettings}
    {more : List Block} (hmore : KeystoreTables keystore more) :
    (s.tables more).foldlM Members.addTable [] = some
      [("metadata", .table .header s.metadata.table.members),
        ("trust_anchors", .table .header (s.anchors.table.members ++ keystoreMember more)),
        ("logging", .table .header s.logging.table.members)] := by
  cases hmore with
  | absent => rfl
  | present path name => rfl

/-- Settings have a written form if documents can hold them, and no other settings have one. -/
theorem exists_write_iff {s : Settings} : (∃ document, s.write = .ok document) ↔ s.IsHeld := by
  constructor
  · rintro ⟨document, h⟩
    obtain ⟨blocks, hblocks, -⟩ := map_eq_ok h
    exact (blocks_eq_ok_iff.mp hblocks).1
  · intro h
    obtain ⟨more, hmore⟩ := h.exists_keystoreTables
    refine ⟨Toml.write (s.tables more), ?_⟩
    rw [write, blocks_eq_ok_iff.mpr ⟨h, more, hmore, rfl⟩]
    rfl

/-- What is written for settings is read as the settings. -/
theorem read?_of_write {s : Settings} {document : List Char} (h : s.write = .ok document) :
    read? document = some s := by
  obtain ⟨blocks, hblocks, rfl⟩ := map_eq_ok h
  obtain ⟨hheld, more, hmore, rfl⟩ := blocks_eq_ok_iff.mp hblocks
  have hread := read_write_blocks (fun b => isWritable_of_mem_tables hheld hmore) (foldlM_addTable_tables hmore)
  have hfields : [["metadata"], ["trust_anchors"], ["logging"]].mapM (field?
      [("metadata", .table .header s.metadata.table.members),
        ("trust_anchors", .table .header (s.anchors.table.members ++ keystoreMember more)),
        ("logging", .table .header s.logging.table.members)]) =
      some [some (.table .header s.metadata.table.members),
        some (.table .header (s.anchors.table.members ++ keystoreMember more)),
        some (.table .header s.logging.table.members)] := rfl
  rw [read?, hread, Option.bind_some, ofMembers?, hfields]
  simp [MetadataSettings.ofValue?_table, AnchorSettings.ofValue?_table hmore,
    LogSettings.ofValue?_table]

end Settings

end AnchoredMetadata.Service
