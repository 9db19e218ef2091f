import AnchoredMetadata.Bytes

/-!
# Distinguished encoding

Elements made of a tag, a definite length and content. A reader takes an
element off the front of some bytes and hands back the rest, so that what
follows an element never changes how it is read.
-/

namespace AnchoredMetadata.Der

/-- An element together with the bytes that encode it. -/
structure Element where
  /-- The class: universal 0, application 1, context-specific 2, private 3. -/
  tagClass : Nat
  /-- Whether the content is said to consist of elements. -/
  constructed : Bool
  /-- The tag number. -/
  tag : Nat
  /-- The content. -/
  content : List UInt8
  /-- Header and content. -/
  encoding : List UInt8
  deriving DecidableEq, Repr

/-- The tag of a boolean. -/
def booleanTag : Nat := 1
/-- The tag of an integer. -/
def integerTag : Nat := 2
/-- The tag of a bit string. -/
def bitStringTag : Nat := 3
/-- The tag of an octet string. -/
def octetStringTag : Nat := 4
/-- The tag of an object identifier. -/
def objectIdentifierTag : Nat := 6
/-- The tag of a sequence. -/
def sequenceTag : Nat := 16
/-- The tag of a set. -/
def setTag : Nat := 17

/-- A reader takes a value off the front of some bytes, or refuses them. -/
abbrev Reader (α : Type) := List UInt8 → Option (α × List UInt8)

/-- The number from the seven-bit groups of a long tag, of at most `fuel` bytes.
It is kept below 2 ^ 32. -/
def readTagGroups : (fuel : Nat) → Nat → Reader Nat
  | 0, _, _ => none
  | _, _, [] => none
  | fuel + 1, n, b :: rest =>
    let n := (n * 128 + b.toNat % 128) % 4294967296
    if b < 0x80 then some (n, rest) else readTagGroups fuel n rest

/-- The tag number that the identifier byte announces. -/
def readTag (identifier : UInt8) : Reader Nat := fun bytes =>
  if identifier &&& 0x1F = 0x1F then readTagGroups 5 0 bytes
  else some ((identifier &&& 0x1F).toNat, bytes)

/-- The length of the content; it is given in one byte, or in a counted number of bytes that
hold a value below 2 ^ 64. The indefinite form and the reserved count are refused. -/
def readLength : Reader Nat
  | [] => none
  | b :: rest =>
    if b < 0x80 then some (b.toNat, rest)
    else if b = 0x80 || b = 0xFF then none
    else
      let count := b.toNat - 0x80
      if rest.length < count then none
      else
        let length := Bytes.toNat (rest.take count)
        if length < 18446744073709551616 then some (length, rest.drop count) else none

/-- Take an element off the front. -/
def readElement : Reader Element
  | [] => none
  | identifier :: rest => do
    let (tag, afterTag) ← readTag identifier rest
    let (length, afterLength) ← readLength afterTag
    if afterLength.length < length then none
    else
      let remaining := afterLength.drop length
      some (⟨identifier.toNat / 64, identifier &&& 0x20 ≠ 0, tag, afterLength.take length,
        (identifier :: rest).take (rest.length + 1 - remaining.length)⟩, remaining)

/-- Take off an element with a tag number of any class. -/
def readTagged (tag : Nat) : Reader Element := fun bytes => do
  let (e, rest) ← readElement bytes
  if e.tag = tag then some (e, rest) else none

/-- Take off a sequence and read its content; what the content reader leaves is dropped. -/
def readSequence {α : Type} (content : Reader α) : Reader α := fun bytes => do
  let (e, rest) ← readTagged sequenceTag bytes
  let (a, _) ← content e.content
  some (a, rest)

/-- Take off a set and read its content; what the content reader leaves is dropped. -/
def readSet {α : Type} (content : Reader α) : Reader α := fun bytes => do
  let (e, rest) ← readTagged setTag bytes
  let (a, _) ← content e.content
  some (a, rest)

/-- Read values until the reader refuses or nothing is left, at most `fuel` of them.
Give back the values and what was not read. -/
def readMany {α : Type} (item : Reader α) : (fuel : Nat) → List UInt8 → List α × List UInt8
  | 0, bytes => ([], bytes)
  | fuel + 1, bytes =>
    match item bytes with
    | none => ([], bytes)
    | some (a, rest) =>
      let (more, rest) := readMany item fuel rest
      (a :: more, rest)

/-- The values at the front of some bytes. A value takes at least a byte, so the number of
bytes bounds the number of values. -/
def readAll {α : Type} (item : Reader α) (bytes : List UInt8) : List α × List UInt8 :=
  readMany item bytes.length bytes

/-- Content of an integer in its shortest two's complement form. -/
def isShortestInteger : List UInt8 → Bool
  | [] => false
  | [_] => true
  | a :: b :: _ => !(a = 0 && b < 0x80) && !(a = 0xFF && 0x80 ≤ b)

/-- An unsigned integer of at most 32 bits from its content. -/
def unsigned32? (content : List UInt8) : Option Nat :=
  if isShortestInteger content && content.headD 0 < 0x80 then
    let n := Bytes.toNat content
    if n < 4294967296 then some n else none
  else none

/-- The bits of a bit string without their count of unused bits, which must be zero bits. -/
def bitString? (e : Element) : Option (List UInt8) :=
  if e.constructed then none
  else
    match e.content with
    | [] => none
    | [unused] => if unused = 0 then some [] else none
    | unused :: bits =>
      let last := bits.getLastD 0
      if unused.toNat ≤ 8 && last.toNat % Nat.pow 2 unused.toNat = 0 then some bits else none

/-- Take off a bit string. -/
def readBitString : Reader (List UInt8) := fun bytes => do
  let (e, rest) ← readTagged bitStringTag bytes
  let bits ← bitString? e
  some (bits, rest)

/-- Take off an object identifier; its content is kept as it stands. -/
def readObjectIdentifier : Reader (List UInt8) := fun bytes => do
  let (e, rest) ← readTagged objectIdentifierTag bytes
  if e.constructed then none else some (e.content, rest)

end AnchoredMetadata.Der
