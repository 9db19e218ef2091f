import AnchoredMetadata.Disk.Path

/-!
# Disks

A tree of directories and files. A place in it is a row of names that starts at
the root; a path leads to a place from the root or from the working directory.
On its way it must pass directories only, also where it turns back upwards.
A disk is a value: the operations that change one give the changed one.
-/

namespace AnchoredMetadata

namespace Disk

/-- What stands at a place. -/
inductive Node where
  /-- A file with its content. -/
  | file (content : List UInt8)
  /-- A directory. -/
  | directory
  deriving DecidableEq, Repr

/-- A place: the names from the root, the last one first. The root has none. -/
abbrev Place := List Name

/-- Why an operation failed. -/
inductive Fault where
  /-- Nothing is there. -/
  | missing
  /-- Something is there. -/
  | occupied
  /-- A file stands where a directory must be. -/
  | notDirectory
  /-- A directory stands where a file must be. -/
  | isDirectory
  /-- A name or the whole path is too long. -/
  | tooLong
  /-- The path holds a zero byte. -/
  | zeroByte
  /-- The content of a file is no text. -/
  | notText
  deriving DecidableEq, Repr

/-- The wording of a fault. -/
def Fault.message : Fault → String
  | .missing => "No such file or directory (os error 2)"
  | .occupied => "File exists (os error 17)"
  | .notDirectory => "Not a directory (os error 20)"
  | .isDirectory => "Is a directory (os error 21)"
  | .tooLong => "File name too long (os error 36)"
  | .zeroByte => "file name contained an unexpected NUL byte"
  | .notText => "stream did not contain valid UTF-8"

/-- The length that no name may exceed. -/
def nameLimit : Nat := 255

/-- The length that a path must stay below. -/
def pathLimit : Nat := 4096

end Disk

open Disk

/-- A tree of directories and files, and the directory where relative paths start. -/
structure Disk where
  /-- What stands at the places other than the root. -/
  nodes : List (Place × Node)
  /-- Where relative paths start. -/
  workingDirectory : Place

namespace Disk

/-- What stands at a place. The root is a directory. -/
def node? (d : Disk) : Place → Option Node
  | [] => some .directory
  | place => d.nodes.lookup place

/-- Put something at a place. -/
def put (d : Disk) (place : Place) (node : Node) : Disk :=
  { d with nodes := (place, node) :: d.nodes.filter fun (p, _) => p ≠ place }

/-- Pass a place on the way to another. -/
def passThrough (d : Disk) (place : Place) : Except Fault Unit :=
  match d.node? place with
  | none => .error .missing
  | some (.file _) => .error .notDirectory
  | some .directory => .ok ()

/-- Where a piece of a path leads from a directory. -/
def step (place : Place) (piece : Name) : Except Fault Place :=
  if Path.stays piece then .ok place
  else if piece = Path.above then .ok place.tail
  else if nameLimit < piece.length then .error .tooLong
  else .ok (piece :: place)

/-- Follow pieces of a path from a place. Where the last one leads nothing need be. -/
def follow (d : Disk) (place : Place) : List Name → Except Fault Place
  | [] => .ok place
  | piece :: rest => do
    d.passThrough place
    d.follow (← step place piece) rest

/-- Where a path starts, unless it can lead nowhere. -/
def start (d : Disk) (p : Path) : Except Fault Place :=
  if p.bytes.isEmpty then .error .missing
  else if p.bytes.contains 0 then .error .zeroByte
  else if pathLimit ≤ p.bytes.length then .error .tooLong
  else .ok (if p.isAbsolute then [] else d.workingDirectory)

/-- Where a path leads. -/
def locate (d : Disk) (p : Path) : Except Fault Place := do
  d.follow (← d.start p) p.pieces

/-- What stands where a path leads. -/
def lookup (d : Disk) (p : Path) : Except Fault Node := do
  match d.node? (← d.locate p) with
  | some node => return node
  | none => throw .missing

/-- Whether anything stands where a path leads. -/
def contains (d : Disk) (p : Path) : Bool := (d.lookup p).isOk

/-- The content of a file. -/
def read (d : Disk) (p : Path) : Except Fault (List UInt8) := do
  match ← d.lookup p with
  | .file content => return content
  | .directory => throw .isDirectory

/-- The content of a file that is text. -/
def readText (d : Disk) (p : Path) : Except Fault (List Char) := do
  match Text.utf8Decode? (← d.read p) with
  | some text => return text
  | none => throw .notText

/-- Write a file, in the place of the one that is there. Its directory must exist, and the path
must end in its name. -/
def write (d : Disk) (p : Path) (content : List UInt8) : Except Fault Disk := do
  let place ← d.start p
  match p.pieces.reverse with
  | [] => throw .missing
  | last :: before =>
    if last.isEmpty then
      let _ ← d.follow place (before.dropWhile List.isEmpty).tail.reverse
      throw .isDirectory
    else
      let target ← d.follow place p.pieces
      if Path.stays last || last = Path.above then throw .isDirectory
      match d.node? target with
      | some .directory => throw .isDirectory
      | _ => return d.put target (.file content)

/-- Make the directory that names lead to, given from the last one backwards. -/
def makeDirectory (d : Disk) (place : Place) (names : List Name) : Except Fault Disk := do
  let target ← d.follow place names.reverse
  match d.node? target with
  | some _ => throw .occupied
  | none => return d.put target .directory

/-- Whether names lead to a directory, given from the last one backwards. -/
def leadsToDirectory (d : Disk) (place : Place) (names : List Name) : Bool :=
  match d.follow place names.reverse with
  | .ok target => d.node? target = some .directory
  | .error _ => false

/-- Make the directory that names lead to, and those on the way that are missing. Those that
were made remain when a later one fails. -/
def makeAll (d : Disk) (place : Place) : List Name → Disk × Except Fault Unit
  | [] => (d, .ok ())
  | name :: up =>
    let settle (d : Disk) (e : Fault) : Disk × Except Fault Unit :=
      (d, if d.leadsToDirectory place (name :: up) then .ok () else .error e)
    match d.makeDirectory place (name :: up) with
    | .ok made => (made, .ok ())
    | .error .missing =>
      match d.makeAll place up with
      | (above, .error e) => (above, .error e)
      | (above, .ok ()) =>
        match above.makeDirectory place (name :: up) with
        | .ok made => (made, .ok ())
        | .error e => settle above e
    | .error e => settle d e

/-- Make the directory above the last name of a path, and those on the way that are missing. -/
def makeParents (d : Disk) (p : Path) : Disk × Except Fault Unit :=
  match p.names with
  | [] => (d, .ok ())
  | _ :: up =>
    if p.bytes.contains 0 then (d, .error .zeroByte)
    else d.makeAll (if p.isAbsolute then [] else d.workingDirectory) up

end Disk

end AnchoredMetadata
