import AnchoredMetadata.Certificate.Name
import AnchoredMetadata.Certificate.Validity

/-!
# The content of a certificate

What is read from the encoding: names, serial number, validity, key, the mark
of an authority, and the signed part with its signature.
-/

namespace AnchoredMetadata.Certificate

open Der

/-- An algorithm and the element that holds its parameters, if there is one. -/
structure Algorithm where
  /-- Which algorithm. -/
  identifier : ObjectIdentifier
  /-- Its parameters. -/
  parameters : Option Element
  deriving DecidableEq, Repr

/-- A public key with its algorithm. -/
structure PublicKey where
  /-- What kind of key it is. -/
  algorithm : Algorithm
  /-- The bits of the key. -/
  bits : List UInt8
  /-- The bytes that encode algorithm and key. -/
  encoding : List UInt8
  deriving DecidableEq, Repr

/-- Everything read from an encoded certificate. -/
structure Content where
  /-- The content bytes of the serial number. -/
  serial : List UInt8
  /-- Who issued the certificate. -/
  issuer : Name
  /-- When it is valid. -/
  validity : Validity
  /-- Whom it belongs to. -/
  subject : Name
  /-- The key it certifies. -/
  key : PublicKey
  /-- Whether it is marked as an authority. -/
  isAuthority : Bool
  /-- The bytes that the signature covers. -/
  signedPart : List UInt8
  /-- How it was signed. -/
  signatureAlgorithm : ObjectIdentifier
  /-- The bits of the signature. -/
  signature : List UInt8
  deriving DecidableEq, Repr

/-- Take off an algorithm. -/
def Algorithm.read : Reader Algorithm :=
  readSequence fun bytes => do
    let (identifier, rest) ← readObjectIdentifier bytes
    if rest.isEmpty then some (⟨⟨identifier⟩, none⟩, rest)
    else
      let (parameters, rest) ← readElement rest
      some (⟨⟨identifier⟩, some parameters⟩, rest)

/-- Take off a public key. Its encoding ends with the key, whatever follows in the sequence. -/
def PublicKey.read : Reader PublicKey := fun bytes => do
  let (e, rest) ← readTagged sequenceTag bytes
  let (algorithm, afterAlgorithm) ← Algorithm.read e.content
  let (bits, afterKey) ← readBitString afterAlgorithm
  some (⟨algorithm, bits, e.encoding.take (e.encoding.length - afterKey.length)⟩, rest)

namespace Content

/-- Take off a version of at most 32 bits, if one is given. -/
def skipVersion (bytes : List UInt8) : Option (List UInt8) :=
  if bytes.isEmpty then some bytes
  else do
    let (e, rest) ← readElement bytes
    if e.tagClass = 2 && e.tag = 0 then
      let (version, _) ← readTagged integerTag e.content
      if version.constructed then none
      else (unsigned32? version.content).map fun _ => rest
    else some bytes

/-- Take off a unique identifier with the given tag, if one is there. -/
def skipUniqueIdentifier (tag : Nat) (bytes : List UInt8) : Option (List UInt8) :=
  if bytes.isEmpty then some bytes
  else do
    let (e, rest) ← readElement bytes
    if e.tagClass = 2 && e.tag = tag then (bitString? e).map fun _ => rest else some bytes

/-- An extension: its identifier and the content of its value. -/
structure Extension where
  /-- Which extension. -/
  identifier : ObjectIdentifier
  /-- The encoded value. -/
  value : List UInt8
  deriving DecidableEq, Repr

/-- Take off a boolean of one byte, if one is there. -/
def skipBoolean (bytes : List UInt8) : List UInt8 :=
  match readTagged booleanTag bytes with
  | some (e, rest) => if e.content.length = 1 then rest else bytes
  | none => bytes

/-- Take off an extension: an identifier, possibly a boolean, and an octet string. -/
def readExtension : Reader Extension :=
  readSequence fun bytes => do
    let (identifier, rest) ← readObjectIdentifier bytes
    let (value, rest) ← readTagged octetStringTag (skipBoolean rest)
    if value.constructed then none else some (⟨⟨identifier⟩, value.content⟩, rest)

/-- The extensions at the end of the signed part. What stands after the tag must be exactly
one sequence, and all of that sequence must be extensions. -/
def extensions? : List UInt8 → Option (List Extension)
  | [] => some []
  | identifier :: bytes => do
    let (tag, afterTag) ← readTag identifier bytes
    let (_, afterLength) ← readLength afterTag
    if tag = 3 then
      let (e, rest) ← readTagged sequenceTag afterLength
      let (extensions, unread) := readAll readExtension e.content
      if rest.isEmpty && unread.isEmpty then some extensions else none
    else none

/-- The extension that marks authorities. -/
def basicConstraints : ObjectIdentifier := ⟨[0x55, 0x1D, 0x13]⟩

/-- The truth value of a boolean element of one byte: false for zero, else true. -/
def boolean? (e : Element) : Option Bool :=
  match e.content with
  | [b] => if e.tag = booleanTag then some (b ≠ 0) else none
  | _ => none

/-- The number of an unsigned integer element of at most 32 bits. -/
def count? (e : Element) : Option Nat :=
  if e.tag = integerTag && e.content.headD 0 < 0x80 then
    let n := Bytes.toNat e.content
    if n < 4294967296 then some n else none
  else none

/-- Whether a basic constraints value marks an authority; nothing if it is not well formed. -/
def authority? (value : List UInt8) : Option Bool := do
  let (e, _) ← readTagged sequenceTag value
  let (elements, unread) := readAll readElement e.content
  if !unread.isEmpty then none
  else
    match elements with
    | [] => some false
    | [a] =>
      match boolean? a with
      | some b => some b
      | none => (count? a).map fun _ => false
    | [a, b] => do
      let marked ← boolean? a
      let _ ← count? b
      some marked
    | _ => none

/-- The last well-formed basic constraints decide; without any there is no mark. -/
def isAuthorityMarked (extensions : List Extension) : Bool :=
  (extensions.filterMap fun x =>
    if x.identifier = basicConstraints then authority? x.value else none).getLastD false

/-- Take off a certificate. -/
def read : Reader Content :=
  readSequence fun bytes => do
    let (signed, afterSigned) ← readTagged sequenceTag bytes
    let rest ← skipVersion signed.content
    let (serial, rest) ← readTagged integerTag rest
    let (_, rest) ← Algorithm.read rest
    let (issuer, rest) ← Name.read rest
    let (validity, rest) ← Validity.read rest
    let (subject, rest) ← Name.read rest
    let (key, rest) ← PublicKey.read rest
    let rest ← skipUniqueIdentifier 1 rest
    let rest ← skipUniqueIdentifier 2 rest
    let extensions ← extensions? rest
    let (algorithm, rest) ← Algorithm.read afterSigned
    let (signature, rest) ← readBitString rest
    some (⟨serial.content, issuer, validity, subject, key, isAuthorityMarked extensions,
      signed.encoding, algorithm.identifier, signature⟩, rest)

end Content

end AnchoredMetadata.Certificate
