import AnchoredMetadata.Certificate.Content

/-!
# Strictly formed certificates

Clients take a certificate as a root only if names and serial number are
strictly formed: every attribute of a name has one value, which is a string of a
known kind that can be decoded, and nothing else stands beside it.
-/

namespace AnchoredMetadata.Certificate.Strict

open Der

/-- All elements of some bytes, if there is nothing else. -/
def elements? (bytes : List UInt8) : Option (List Element) :=
  let (elements, rest) := readAll readElement bytes
  if rest.isEmpty then some elements else none

/-- The tags that a value in a name may have. -/
def valueTags : List Nat := [3, 7, 8, 9, 11, 12, 13, 14, 15, 16, 18, 19, 20, 22, 28, 29, 30, 31]

/-- Whether a value of a name is strictly formed. -/
def isValue (e : Element) : Bool :=
  valueTags.contains e.tag &&
    (e.tag ≠ 12 || (Text.utf8Decode? e.content).isSome) &&
    (e.tag ≠ Name.wideTag ||
      (e.content.length % 2 = 0 &&
        (Name.units16 e.content).all fun u => u < 0xD800 || 0xDFFF < u))

/-- Whether an element is an attribute of one type and one value. -/
def isAttribute (e : Element) : Bool :=
  e.tag = sequenceTag && e.constructed &&
    match elements? e.content with
    | some [type, value] => type.tag = objectIdentifierTag && isValue value
    | _ => false

/-- Whether an element is a set of attributes. -/
def isPart (e : Element) : Bool :=
  e.tag = setTag && e.constructed &&
    match elements? e.content with
    | some attributes => attributes.all isAttribute
    | none => false

/-- Whether an element is a strictly formed name. -/
def isName (e : Element) : Bool :=
  e.tag = sequenceTag && e.constructed &&
    match elements? e.content with
    | some parts => parts.all isPart
    | none => false

/-- Whether the parts of the signed part are strictly formed: a serial number, an algorithm, a
name, a validity of two times and a name. -/
def areParts : List Element → Bool
  | serial :: _ :: issuer :: validity :: subject :: _ =>
    isShortestInteger serial.content && isName issuer &&
      ((elements? validity.content).map List.length) = some 2 && isName subject
  | _ => false

/-- Whether a certificate is strictly formed. -/
def isStrict (encoding : List UInt8) : Bool :=
  (do
    let (outer, _) ← readElement encoding
    let (signed, _) ← readElement outer.content
    let parts ← elements? signed.content
    match parts with
    | version :: rest => return areParts (if version.tagClass = 2 then rest else version :: rest)
    | [] => none).getD false

end AnchoredMetadata.Certificate.Strict
