import AnchoredMetadata.Text.Utf8

/-!
# Paths

A path is a row of bytes: names with slashes between them, which need not be
text. A slash at the start means the root. The last name may have an extension
after its last dot; a dot at its start opens no extension.
-/

namespace AnchoredMetadata.Disk

/-- The name of a file or directory. -/
abbrev Name := List UInt8

/-- A path as it was given. -/
structure Path where
  /-- Its bytes. -/
  bytes : List UInt8
  deriving DecidableEq, Repr

namespace Path

/-- The byte between names. -/
def slash : UInt8 := 47

/-- The byte before an extension. -/
def dot : UInt8 := 46

/-- The name of the directory itself. -/
def here : Name := [dot]

/-- The name of the directory above. -/
def above : Name := [dot, dot]

/-- The path that a text denotes. -/
def ofText (s : String) : Path := ⟨Text.utf8 s⟩

/-- The path as text, unless its bytes are none. -/
def text? (p : Path) : Option String := (Text.utf8Decode? p.bytes).map String.ofList

/-- The path as text; what is no text is shown by replacement characters. -/
def shown (p : Path) : String := String.ofList (Text.utf8Decode p.bytes)

/-- Whether a path starts at the root. -/
def isAbsolute (p : Path) : Bool := p.bytes.head? = some slash

/-- Split bytes at a separator. There is at least one piece. -/
def splitAt (separator : UInt8) : List UInt8 → List (List UInt8)
  | [] => [[]]
  | b :: rest =>
    if b = separator then [] :: splitAt separator rest
    else match splitAt separator rest with
      | [] => [[b]]
      | piece :: pieces => (b :: piece) :: pieces

/-- Join pieces with a separator. -/
def join (separator : UInt8) : List (List UInt8) → List UInt8
  | [] => []
  | [piece] => piece
  | piece :: pieces => piece ++ separator :: join separator pieces

/-- What stands between slashes, nothing included. -/
def pieces (p : Path) : List Name := splitAt slash p.bytes

/-- Whether a piece stays where it is. -/
def stays (piece : Name) : Bool := piece.isEmpty || piece = here

/-- The pieces from the last name backwards; pieces after it that stay there are dropped. -/
def trimmed (p : Path) : List Name := p.pieces.reverse.dropWhile stays

/-- The name at the end of a path, unless it leads upwards. -/
def name? (p : Path) : Option Name :=
  match p.trimmed with
  | [] => none
  | last :: _ => if last = above then none else some last

/-- The parts of a name before and after its last dot. A name without a dot, or with its only
dot at the start, has no second part. -/
def splitName (name : Name) : Name × Option Name :=
  let after := name.reverse.takeWhile (· ≠ dot)
  match name.reverse.dropWhile (· ≠ dot) with
  | [] => (name, none)
  | [_] => (name, none)
  | _ :: before => (before.reverse, some after.reverse)

/-- The extension of the name at the end of a path. -/
def extension? (p : Path) : Option Name := p.name?.bind fun name => (splitName name).2

/-- A path with another extension; a path without a name keeps its form. -/
def withExtension (p : Path) (extension : Name) : Path :=
  match p.trimmed with
  | [] => p
  | last :: before =>
    if last = above then p
    else ⟨join slash (((splitName last).1 ++ dot :: extension) :: before).reverse⟩

/-- A path below another; an absolute one stands for itself. -/
def append (p q : Path) : Path :=
  if q.isAbsolute then q
  else if p.bytes.isEmpty || p.bytes.getLast? = some slash then ⟨p.bytes ++ q.bytes⟩
  else ⟨p.bytes ++ slash :: q.bytes⟩

/-- The names on the way, from the last one backwards. -/
def names (p : Path) : List Name := p.pieces.reverse.filter fun piece => !stays piece

end Path

end AnchoredMetadata.Disk
