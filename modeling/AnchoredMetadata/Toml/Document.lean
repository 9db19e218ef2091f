import AnchoredMetadata.Toml.Statement

/-!
# TOML documents

The statements of a document put together: keys belong to the table of the
header before them, or to the root if there is none.
-/

namespace AnchoredMetadata.Toml

/-- The table that keys are added to. -/
inductive Section where
  /-- The root. -/
  | root
  /-- The table of a header. -/
  | table (key : Key)
  /-- The last table of a list. -/
  | item (key : Key)
  deriving DecidableEq, Repr

/-- A document in the making. -/
structure Draft where
  /-- The root without the table that keys are added to. -/
  root : Members
  /-- The table that keys are added to. -/
  place : Section
  /-- Its members. -/
  current : Members

namespace Draft

/-- The start of a document. -/
def empty : Draft := ⟨[], .root, []⟩

/-- The root with the table that keys were added to. -/
def close (d : Draft) : Option Members :=
  match d.place with
  | .root => some d.current
  | .table key => d.root.close key.path key.last d.current
  | .item key => d.root.closeItem key.path key.last d.current

/-- Add a statement. -/
def add (d : Draft) : Statement → Option Draft
  | .pair key v => do
    let members ← d.current.assign key.path key.last v
    return { d with current := members }
  | .header key => do
    let root ← d.close
    return ⟨root, .table key, ← root.opened? key.path key.last⟩
  | .itemHeader key => do
    let root ← d.close
    if root.mayGrow key.path key.last then return ⟨root, .item key, []⟩ else none

end Draft

/-- Read a document; give the members of its root. -/
def read (document : List Char) : Option Members := do
  let d ← (← statements document).foldlM Draft.add Draft.empty
  d.close

end AnchoredMetadata.Toml
