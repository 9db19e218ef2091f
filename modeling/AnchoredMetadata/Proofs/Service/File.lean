import AnchoredMetadata.Proofs.Disk
import AnchoredMetadata.Proofs.Service.Document
import AnchoredMetadata.Service.Settings.File

/-!
# Settings read back from a file

Saving settings fails before anything is written if they have no written form. Otherwise they are
written to a file, and loading the settings from its path gives them back, provided that the path
stands for itself. A path does if its ending belongs to a longer name: a dot at the start of a name
opens no extension.
-/

namespace AnchoredMetadata.Service.Settings

open Disk (Path)

/-! ## Paths with the ending -/

/-- The ending of a path to a settings file. -/
def ending : List UInt8 := Text.utf8 ".toml"

theorem ending_eq : ending = Path.dot :: extension := by decide

/-- A path with the ending, in a name that is longer than the ending. -/
structure EndsInExtension (p : Path) : Prop where
  /-- The path has the ending. -/
  suffix : ending <:+ p.bytes
  /-- Its name is longer. -/
  longer : p.name? ≠ some ending

theorem EndsInExtension.exists_stem {p : Path} (h : EndsInExtension p) :
    ∃ stem, stem ≠ [] ∧ p.EndsInName (stem ++ Path.dot :: extension) := by
  obtain ⟨stem, hname⟩ :=
    Path.exists_endsInName (by decide) (by decide) (by decide) (ending_eq ▸ h.suffix)
  refine ⟨stem, ?_, hname⟩
  rintro rfl
  exact h.longer (ending_eq ▸ hname.name?_eq)

/-- Such a path stands for itself. -/
theorem EndsInExtension.file_eq {p : Path} (h : EndsInExtension p) : file p = p := by
  obtain ⟨stem, hstem, hname⟩ := h.exists_stem
  rw [file, if_pos (hname.extension?_eq hstem (by decide))]

/-! ## Saving and loading -/

/-- Settings without a written form are not saved, and nothing is changed. -/
theorem save_of_not_held {s : Settings} (h : ¬ s.IsHeld) (d : Disk) (p : Path) :
    ∃ e, save d p s = ⟨d, .error (.unwritten e)⟩ := by
  cases hwrite : s.write with
  | error e => exact ⟨e, by rw [save, hwrite]⟩
  | ok document => exact absurd (exists_write_iff.mp ⟨document, hwrite⟩) h

theorem save_ne_unwritten {s : Settings} (h : s.IsHeld) (d : Disk) (p : Path) (e : WriteFault) :
    (save d p s).result ≠ .error (.unwritten e) := by
  obtain ⟨document, hwrite⟩ := exists_write_iff.mpr h
  rw [save, hwrite]
  dsimp only
  split
  · nofun
  · split <;> nofun

/-- Settings with a written form are saved where a file may be put. -/
theorem save_of_held {s : Settings} (h : s.IsHeld) {d : Disk} {p : Path} {name : Disk.Name}
    (hp : d.MayHold p) (hname : p.EndsInName name) :
    ∃ saved, save d p s = ⟨saved, .ok ()⟩ ∧ loadFile saved p = ⟨saved, .ok s⟩ := by
  obtain ⟨document, hwrite⟩ := exists_write_iff.mpr h
  obtain ⟨made, hparents, hmade⟩ := hp.makeParents hname
  have hput := hmade.write hp hname (Text.utf8Encode document)
  obtain ⟨hcontains, htext⟩ := hmade.readText hp hname document rfl
  refine ⟨made.put (d.destination p) (.file (Text.utf8Encode document)), ?_, ?_⟩
  · rw [save, hwrite]
    simp only [hparents, hput]
  · rw [loadFile, if_pos hcontains]
    simp only [htext, read?_of_write hwrite]

/-- Settings are saved unless documents cannot hold them: then nothing is written. Settings that are
saved to a path with the ending are loaded from it again, if a file may be put there. -/
theorem load_of_save (s : Settings) (d : Disk) (p : Path) :
    ((∃ e, (save d p s).result = .error (.unwritten e)) ↔ ¬ s.IsHeld) ∧
      (¬ s.IsHeld → (save d p s).disk = d) ∧
      (s.IsHeld → EndsInExtension p → d.MayHold p → (save d p s).result = .ok () ∧
        ∀ e : Environment, load (save d p s).disk e (some p) = ⟨(save d p s).disk, .ok s⟩) := by
  refine ⟨⟨?_, ?_⟩, ?_, ?_⟩
  · rintro ⟨e, herror⟩ hheld
    exact save_ne_unwritten hheld d p e herror
  · intro h
    obtain ⟨e, hsave⟩ := save_of_not_held h d p
    exact ⟨e, by rw [hsave]⟩
  · intro h
    obtain ⟨e, hsave⟩ := save_of_not_held h d p
    rw [hsave]
  · intro hheld hending hp
    obtain ⟨stem, -, hname⟩ := hending.exists_stem
    obtain ⟨saved, hsave, hload⟩ := save_of_held hheld hp hname
    rw [hsave]
    refine ⟨rfl, fun e => ?_⟩
    rw [load, hending.file_eq]
    exact hload

/-- A disk with a home directory, in which relative paths start. -/
def sampleDisk : Disk := ⟨[([Text.utf8 "home"], .directory)], [Text.utf8 "home"]⟩

/-- Settings with quotes, several lines and the largest number that documents can hold. -/
def sample : Settings where
  metadata := ⟨"a \"quoted\"\n\"\"\"part\"\"\"", "", 0, 9223372036854775807,
    [.serviceProvider, .identityProvider, .serviceProvider]⟩
  anchors := ⟨["", "C:\\anchors"], 1, 2, some ⟨.ofText "/keystore.pem", some "country"⟩⟩
  logging := ⟨"off", "json", 3⟩

/-- A path over directories that are missing. -/
def samplePath : Path := .ofText "new/../deep/./config.toml"

/-- The sample settings are saved to a file in directories that are missing. -/
theorem load_of_save_sample :
    (save sampleDisk samplePath sample).result = .ok () ∧
      load (save sampleDisk samplePath sample).disk ⟨[], none⟩ (some samplePath) =
        ⟨(save sampleDisk samplePath sample).disk, .ok sample⟩ := by
  have hheld : sample.IsHeld := by
    refine ⟨by decide, by decide, by decide, ?_⟩
    rintro k hk
    obtain rfl := Option.some.inj hk
    exact ⟨"/keystore.pem", rfl⟩
  have hending : EndsInExtension samplePath := ⟨by decide +kernel, by decide +kernel⟩
  have hmay : sampleDisk.MayHold samplePath :=
    ⟨by decide +kernel, by decide +kernel, by decide +kernel, by decide +kernel,
      by decide +kernel, by decide +kernel, by decide +kernel⟩
  obtain ⟨hsaved, hload⟩ := (load_of_save sample sampleDisk samplePath).2.2 hheld hending hmay
  exact ⟨hsaved, hload ⟨[], none⟩⟩

/-- A name that is only the ending is not read as one, so the standard settings are loaded. A path
that leads over the place of the file makes a directory there. -/
theorem not_loaded_of_save :
    (save sampleDisk (.ofText "/.toml") sample).result = .ok () ∧
      (load (save sampleDisk (.ofText "/.toml") sample).disk ⟨[], none⟩
        (some (.ofText "/.toml"))).result = .ok standard ∧
      sample ≠ standard ∧
      (save sampleDisk (.ofText "/a.toml/../a.toml") sample).result =
        .error (.unwritable (.ofText "/a.toml/../a.toml") .isDirectory) := by
  refine ⟨by decide +kernel, by decide +kernel, by decide, by decide +kernel⟩

end AnchoredMetadata.Service.Settings
