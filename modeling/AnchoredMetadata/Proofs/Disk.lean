import AnchoredMetadata.Proofs.Disk.Path
import AnchoredMetadata.Disk
import Mathlib.Data.List.Infix

/-!
# Putting files on a disk

A path leads over places: where it starts, and where each of its pieces leads. If no file stands on
the way, the directories that are missing can be made, and this changes nothing else. Then a file can
be put where the path leads, and it is found there with its content.

Directories are made from the top: a directory that cannot be made yet is made after the one above
it, so the induction is on the names from the last one backwards.
-/

namespace AnchoredMetadata.Disk

/-! ## What stands at a place -/

theorem lookup_filter_ne {place q : Place} (h : q ≠ place) (nodes : List (Place × Node)) :
    (nodes.filter fun (p, _) => p ≠ place).lookup q = nodes.lookup q := by
  have hbeq : (q == place) = false := beq_eq_false_iff_ne.mpr h
  induction nodes with
  | nil => rfl
  | cons e nodes ih =>
    obtain ⟨p, node⟩ := e
    by_cases hp : p = place
    · rw [List.filter_cons_of_neg (by simp [hp]), ih, List.lookup_cons, hp, hbeq]
    · rw [List.filter_cons_of_pos (by simp [hp]), List.lookup_cons, List.lookup_cons, ih]

theorem node?_put_self {place : Place} (h : place ≠ []) (d : Disk) (node : Node) :
    (d.put place node).node? place = some node := by
  cases place with
  | nil => exact absurd rfl h
  | cons name up => simp [node?, put]

theorem node?_put_of_ne {place q : Place} (h : q ≠ place) (d : Disk) (node : Node) :
    (d.put place node).node? q = d.node? q := by
  have hbeq : (q == place) = false := beq_eq_false_iff_ne.mpr h
  cases q with
  | nil => rfl
  | cons name up =>
    change ((place, node) :: d.nodes.filter fun (p, _) => p ≠ place).lookup (name :: up) =
      d.nodes.lookup (name :: up)
    rw [List.lookup_cons, hbeq]
    exact lookup_filter_ne h d.nodes

/-- No file stands at a place. -/
def IsOpen (d : Disk) (place : Place) : Prop :=
  d.node? place = none ∨ d.node? place = some .directory

instance (d : Disk) (place : Place) : Decidable (d.IsOpen place) :=
  inferInstanceAs (Decidable (_ ∨ _))

/-! ## Ways -/

/-- Where a piece leads from a place, whatever stands there. -/
def onward (place : Place) (piece : Name) : Place :=
  if Path.stays piece then place else if piece = Path.above then place.tail else piece :: place

/-- Where pieces lead from a place. -/
def leads (place : Place) (pieces : List Name) : Place := pieces.foldl onward place

/-- The places that pieces lead over, from the first place to the last. -/
def trail (place : Place) : List Name → List Place
  | [] => [place]
  | piece :: rest => place :: trail (onward place piece) rest

theorem mem_trail_start (place : Place) (pieces : List Name) : place ∈ trail place pieces := by
  cases pieces <;> exact List.mem_cons_self

theorem trail_concat (place : Place) (pieces : List Name) (piece : Name) :
    trail place (pieces ++ [piece]) = trail place pieces ++ [leads place (pieces ++ [piece])] := by
  induction pieces generalizing place with
  | nil => rfl
  | cons first pieces ih => rw [List.cons_append, trail, ih, trail, List.cons_append]; rfl

/-- Pieces that stay lead over no further places. -/
theorem mem_trail_filter {place q : Place} {pieces : List Name} :
    q ∈ trail place (pieces.filter fun piece => !Path.stays piece) ↔ q ∈ trail place pieces := by
  induction pieces generalizing place with
  | nil => rfl
  | cons piece pieces ih =>
    cases hstays : Path.stays piece with
    | true =>
      have honward : onward place piece = place := if_pos hstays
      rw [List.filter_cons_of_neg (by simp [hstays]), ih, trail, honward, List.mem_cons]
      refine ⟨Or.inr, ?_⟩
      rintro (rfl | hq)
      · exact mem_trail_start q pieces
      · exact hq
    | false =>
      rw [List.filter_cons_of_pos (by simp [hstays]), trail, trail, List.mem_cons, List.mem_cons,
        ih]

theorem step_of_short {place : Place} {piece : Name} (h : piece.length ≤ nameLimit) :
    step place piece = .ok (onward place piece) := by
  rw [step, onward, if_neg (Nat.not_lt.mpr h)]
  split_ifs <;> rfl

section Following

variable {d : Disk} {place : Place} {pieces : List Name} {piece : Name}

theorem passThrough_of_directory (h : d.node? place = some .directory) :
    d.passThrough place = .ok () := by
  rw [passThrough, h]

theorem follow_cons (h : d.node? place = some .directory) (hshort : piece.length ≤ nameLimit) :
    d.follow place (piece :: pieces) = d.follow (onward place piece) pieces := by
  rw [follow, passThrough_of_directory h, step_of_short hshort]
  rfl

theorem follow_missing (h : d.node? place = none) :
    d.follow place (piece :: pieces) = .error .missing := by
  rw [follow, passThrough, h]
  rfl

/-- A way over directories can be followed. -/
theorem follow_of_directories (h : ∀ q ∈ trail place pieces, d.node? q = some .directory)
    (hshort : ∀ name ∈ pieces ++ [piece], name.length ≤ nameLimit) :
    d.follow place (pieces ++ [piece]) = .ok (leads place (pieces ++ [piece])) := by
  induction pieces generalizing place with
  | nil =>
    rw [List.nil_append] at hshort ⊢
    rw [follow_cons (h place List.mem_cons_self) (hshort piece List.mem_cons_self)]
    rfl
  | cons first pieces ih =>
    obtain ⟨hplace, hrest⟩ := List.forall_mem_cons.mp h
    obtain ⟨hfirst, hpieces⟩ := List.forall_mem_cons.mp hshort
    rw [List.cons_append, follow_cons hplace hfirst, ih hrest hpieces]
    rfl

/-- A way without files on which a directory is missing breaks off there. -/
theorem follow_of_missing (hopen : ∀ q ∈ trail place pieces, d.IsOpen q)
    (hmissing : ¬ ∀ q ∈ trail place pieces, d.node? q = some .directory)
    (hshort : ∀ name ∈ pieces ++ [piece], name.length ≤ nameLimit) :
    d.follow place (pieces ++ [piece]) = .error .missing := by
  induction pieces generalizing place with
  | nil =>
    have hnone : d.node? place = none := by
      rcases hopen place List.mem_cons_self with hnone | hdirectory
      · exact hnone
      · exact absurd (by simpa [trail] using hdirectory) hmissing
    exact follow_missing hnone
  | cons first pieces ih =>
    obtain ⟨hplace, hrest⟩ := List.forall_mem_cons.mp hopen
    obtain ⟨hfirst, hpieces⟩ := List.forall_mem_cons.mp hshort
    rcases hplace with hnone | hdirectory
    · exact follow_missing hnone
    · have hlater : ¬ ∀ q ∈ trail (onward place first) pieces, d.node? q = some .directory :=
        fun hall => hmissing (List.forall_mem_cons.mpr ⟨hdirectory, hall⟩)
      rw [List.cons_append, follow_cons hdirectory hfirst]
      exact ih hrest hlater hpieces

end Following

/-! ## Making directories -/

/-- At some places there are directories now, and nothing else has changed. -/
structure Made (d made : Disk) (places : List Place) : Prop where
  /-- There are directories now. -/
  directory : ∀ q ∈ places, made.node? q = some .directory
  /-- Elsewhere is what was there. -/
  kept : ∀ q ∉ places, made.node? q = d.node? q
  /-- Relative paths start where they did. -/
  workingDirectory : made.workingDirectory = d.workingDirectory

theorem Made.of_directories {d : Disk} {places : List Place}
    (h : ∀ q ∈ places, d.node? q = some .directory) : Made d d places :=
  ⟨h, fun _ _ => rfl, rfl⟩

/-- A directory is put behind directories. -/
theorem Made.put {d : Disk} {places : List Place} {target : Place}
    (h : ∀ q ∈ places, d.node? q = some .directory) (htarget : target ≠ []) :
    Made d (d.put target .directory) (places ++ [target]) where
  directory q hq := by
    by_cases heq : q = target
    · rw [heq, node?_put_self htarget]
    · have hin : q ∈ places := by simpa [heq] using hq
      rw [node?_put_of_ne heq, h q hin]
  kept q hq := by
    have hne : q ≠ target := by
      rintro rfl
      simp at hq
    exact node?_put_of_ne hne d .directory
  workingDirectory := rfl

theorem Made.trans {d above made : Disk} {first rest : List Place} (h : Made d above first)
    (hmore : Made above made rest) (hsubset : first ⊆ rest) : Made d made rest where
  directory := hmore.directory
  kept q hq := (hmore.kept q hq).trans (h.kept q fun hin => hq (hsubset hin))
  workingDirectory := hmore.workingDirectory.trans h.workingDirectory

theorem Made.congr {d made : Disk} {places others : List Place} (h : Made d made places)
    (hmem : ∀ q, q ∈ places ↔ q ∈ others) : Made d made others where
  directory q hq := h.directory q ((hmem q).mpr hq)
  kept q hq := h.kept q fun hin => hq ((hmem q).mp hin)
  workingDirectory := h.workingDirectory

theorem Made.isOpen {d made : Disk} {places : List Place} (h : Made d made places) {q : Place}
    (hq : d.IsOpen q) : made.IsOpen q := by
  by_cases hin : q ∈ places
  · exact Or.inr (h.directory q hin)
  · rw [IsOpen, h.kept q hin]
    exact hq

section Making

variable {d : Disk} {place : Place} {name : Name} {up : List Name}

theorem trail_reverse_cons (place : Place) (name : Name) (up : List Name) :
    trail place (name :: up).reverse =
      trail place up.reverse ++ [leads place (name :: up).reverse] := by
  rw [List.reverse_cons, trail_concat]

theorem short_reverse (h : ∀ other ∈ name :: up, other.length ≤ nameLimit) :
    ∀ other ∈ up.reverse ++ [name], other.length ≤ nameLimit := by
  intro other hother
  apply h
  simpa [or_comm] using hother

/-- Where the way leads over directories, the last one is made, or it is there. -/
theorem makeDirectory_of_directories
    (h : ∀ q ∈ trail place up.reverse, d.node? q = some .directory)
    (hopen : d.IsOpen (leads place (name :: up).reverse))
    (hshort : ∀ other ∈ name :: up, other.length ≤ nameLimit) :
    ∃ made, Made d made (trail place (name :: up).reverse) ∧
      (d.makeDirectory place (name :: up) = .ok made ∨
        made = d ∧ d.makeDirectory place (name :: up) = .error .occupied ∧
          d.leadsToDirectory place (name :: up) = true) := by
  have hfollow : d.follow place (name :: up).reverse = .ok (leads place (name :: up).reverse) := by
    rw [List.reverse_cons]
    exact follow_of_directories h (short_reverse hshort)
  rw [trail_reverse_cons, makeDirectory, leadsToDirectory, hfollow]
  generalize leads place (name :: up).reverse = target at *
  rcases hopen with hnone | hdirectory
  · have htarget : target ≠ [] := by
      rintro rfl
      cases hnone
    refine ⟨d.put target .directory, .put h htarget, Or.inl ?_⟩
    simp only [bind, Except.bind, hnone]
    rfl
  · have hall : ∀ q ∈ trail place up.reverse ++ [target], d.node? q = some .directory :=
      List.forall_mem_append.mpr ⟨h, by simpa using hdirectory⟩
    refine ⟨d, .of_directories hall, Or.inr ⟨rfl, ?_, ?_⟩⟩
    · simp only [bind, Except.bind, hdirectory]
      rfl
    · simp only [hdirectory, decide_true]

/-- If no file stands on a way, all directories on it can be made. -/
theorem makeAll_of_open {names : List Name} (hstart : d.node? place = some .directory)
    (hopen : ∀ q ∈ trail place names.reverse, d.IsOpen q)
    (hshort : ∀ other ∈ names, other.length ≤ nameLimit) :
    ∃ made, d.makeAll place names = (made, .ok ()) ∧ Made d made (trail place names.reverse) := by
  induction names with
  | nil => exact ⟨d, rfl, .of_directories (by simpa [trail] using hstart)⟩
  | cons name up ih =>
    have htrail := trail_reverse_cons place name up
    obtain ⟨hopenUp, hopenLast⟩ := List.forall_mem_append.mp (htrail ▸ hopen)
    rw [List.forall_mem_singleton] at hopenLast
    rw [makeAll]
    by_cases hall : ∀ q ∈ trail place up.reverse, d.node? q = some .directory
    · obtain ⟨made, hmade, hdone⟩ := makeDirectory_of_directories hall hopenLast hshort
      refine ⟨made, ?_, hmade⟩
      rcases hdone with hok | ⟨rfl, herror, hleads⟩
      · simp only [hok]
      · simp only [herror, hleads, if_true]
    · -- a directory is missing on the way, so those above are made first
      have hmissing : d.makeDirectory place (name :: up) = .error .missing := by
        rw [makeDirectory, List.reverse_cons, follow_of_missing hopenUp hall (short_reverse hshort)]
        rfl
      have hsubset : trail place up.reverse ⊆ trail place (name :: up).reverse := by
        rw [htrail]
        exact List.subset_append_left _ _
      obtain ⟨above, habove, hmadeAbove⟩ := ih hopenUp (List.forall_mem_cons.mp hshort).2
      have hopenAbove := hmadeAbove.isOpen hopenLast
      obtain ⟨made, hmade, hdone⟩ :=
        makeDirectory_of_directories hmadeAbove.directory hopenAbove hshort
      refine ⟨made, ?_, hmadeAbove.trans hmade hsubset⟩
      rcases hdone with hok | ⟨rfl, herror, hleads⟩
      · simp only [hmissing, habove, hok]
      · simp only [hmissing, habove, herror, hleads, if_true]

end Making

/-! ## Putting a file where a path leads -/

/-- Where a path starts. -/
def origin (d : Disk) (p : Path) : Place := if p.isAbsolute then [] else d.workingDirectory

/-- Where a path leads, whatever stands on the way. -/
def destination (d : Disk) (p : Path) : Place := leads (d.origin p) p.pieces

/-- The places that a path leads over before its last piece. -/
def way (d : Disk) (p : Path) : List Place := trail (d.origin p) p.pieces.dropLast

/-- A path that a file can be written to, after the directories that are missing on its way. -/
structure MayHold (d : Disk) (p : Path) : Prop where
  /-- There is no zero byte in it. -/
  zeroFree : 0 ∉ p.bytes
  /-- It is not too long. -/
  short : p.bytes.length < pathLimit
  /-- Nor is any of its names. -/
  shortNames : ∀ piece ∈ p.pieces, piece.length ≤ nameLimit
  /-- It starts in a directory. -/
  start : d.node? (d.origin p) = some .directory
  /-- No file stands on its way. -/
  wayOpen : ∀ q ∈ d.way p, d.IsOpen q
  /-- It does not lead over the place of the file itself. -/
  apart : d.destination p ∉ d.way p
  /-- No directory stands there. -/
  noDirectory : d.node? (d.destination p) ≠ some .directory

section Holding

variable {d made : Disk} {p : Path} {name : Name}

theorem MayHold.makeParents (h : d.MayHold p) (hname : p.EndsInName name) :
    ∃ made, d.makeParents p = (made, .ok ()) ∧ Made d made (d.way p) := by
  have hnames : p.names =
      name :: (p.pieces.dropLast.filter fun piece => !Path.stays piece).reverse := by
    rw [Path.names, hname.last]
    simp [hname.moves]
  have hopen : ∀ q ∈ trail (d.origin p)
      (p.pieces.dropLast.filter fun piece => !Path.stays piece).reverse.reverse, d.IsOpen q := by
    intro q hq
    rw [List.reverse_reverse, mem_trail_filter] at hq
    exact h.wayOpen q hq
  have hshort : ∀ other ∈ (p.pieces.dropLast.filter fun piece => !Path.stays piece).reverse,
      other.length ≤ nameLimit := by
    intro other hother
    have hin := List.mem_of_mem_filter (List.mem_reverse.mp hother)
    exact h.shortNames other (List.mem_of_mem_dropLast hin)
  obtain ⟨made, hmakeAll, hmade⟩ := makeAll_of_open h.start hopen hshort
  rw [List.reverse_reverse] at hmade
  refine ⟨made, ?_, hmade.congr fun _ => mem_trail_filter⟩
  rw [Disk.makeParents, hnames]
  simp only [List.contains_eq_mem, h.zeroFree, decide_false, Bool.false_eq_true, if_false]
  exact hmakeAll

theorem destination_ne_nil (hname : p.EndsInName name) (d : Disk) : d.destination p ≠ [] := by
  rw [destination, hname.last, leads, List.foldl_append, List.foldl_cons, List.foldl_nil, onward,
    if_neg (by simp [hname.moves]), if_neg hname.down]
  exact List.cons_ne_nil _ _

/-- Paths start and lead where they do on a disk with the same working directory, if their way leads
over directories there. -/
theorem MayHold.locate {other : Disk} (h : d.MayHold p) (hname : p.EndsInName name)
    (hway : ∀ q ∈ d.way p, other.node? q = some .directory)
    (hworking : other.workingDirectory = d.workingDirectory) :
    other.start p = .ok (d.origin p) ∧
      other.follow (d.origin p) p.pieces = .ok (d.destination p) := by
  constructor
  · rw [Disk.start, origin, hworking]
    simp [hname.bytes_ne_nil, h.zeroFree, Nat.not_le.mpr h.short]
  · have hshort := h.shortNames
    rw [hname.last] at hshort
    have hfollow := follow_of_directories hway hshort
    rw [← hname.last] at hfollow
    exact hfollow

theorem Made.write (h : d.MayHold p) (hname : p.EndsInName name) (hmade : Made d made (d.way p))
    (content : List UInt8) :
    made.write p content = .ok (made.put (d.destination p) (.file content)) := by
  obtain ⟨hstart, hfollow⟩ := h.locate hname hmade.directory hmade.workingDirectory
  have hreverse : p.pieces.reverse = name :: p.pieces.dropLast.reverse := by
    rw [hname.last]
    simp
  have hmoves : name.isEmpty = false ∧ name ≠ Path.here := by
    simpa [Path.stays] using hname.moves
  have hdirectory : made.node? (d.destination p) ≠ some .directory := by
    rw [hmade.kept _ h.apart]
    exact h.noDirectory
  rw [Disk.write, hstart, hreverse]
  simp [bind, Except.bind, hmoves.1, hfollow, hname.moves, hname.down]
  rfl

theorem Made.readText (h : d.MayHold p) (hname : p.EndsInName name) (hmade : Made d made (d.way p))
    (text : List Char) {written : Disk}
    (hwritten : written = made.put (d.destination p) (.file (Text.utf8Encode text))) :
    written.contains p = true ∧ written.readText p = .ok text := by
  have hnode : written.node? (d.destination p) = some (.file (Text.utf8Encode text)) := by
    rw [hwritten, node?_put_self (destination_ne_nil hname d)]
  have hway : ∀ q ∈ d.way p, written.node? q = some .directory := by
    intro q hq
    have hne : q ≠ d.destination p := fun heq => h.apart (heq ▸ hq)
    rw [hwritten, node?_put_of_ne hne, hmade.directory q hq]
  have hworking : written.workingDirectory = d.workingDirectory := by
    rw [hwritten]
    exact hmade.workingDirectory
  obtain ⟨hstart, hfollow⟩ := h.locate hname hway hworking
  have hlookup : written.lookup p = .ok (.file (Text.utf8Encode text)) := by
    simp only [lookup, Disk.locate, bind, Except.bind, hstart, hfollow, hnode]
    rfl
  refine ⟨?_, ?_⟩
  · rw [contains, hlookup]
    rfl
  · simp only [Disk.readText, Disk.read, bind, Except.bind, hlookup, pure, Except.pure,
      Text.utf8Decode?_utf8Encode]

end Holding

end AnchoredMetadata.Disk
