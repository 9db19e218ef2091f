import AnchoredMetadata.Certificate.ObjectIdentifier
import AnchoredMetadata.Der
import AnchoredMetadata.Text.Hex
import AnchoredMetadata.Text.Utf8

/-!
# Distinguished names

A name is a sequence of sets of attributes. Its display text joins them
without escaping, so different names may share a text; a name with a value
that cannot be decoded is shown by one fixed text.
-/

namespace AnchoredMetadata.Certificate

open Der

/-- An attribute of a name: a type and an undecoded value. -/
structure Attribute where
  /-- What the value says. -/
  type : ObjectIdentifier
  /-- The tag number of the value. -/
  valueTag : Nat
  /-- The content of the value. -/
  value : List UInt8
  deriving DecidableEq, Repr

/-- A name: the attributes of each relative name, in order. -/
structure Name where
  /-- The relative names, each with at least one attribute. -/
  parts : List (List Attribute)
  deriving DecidableEq, Repr

namespace Name

/-- The tags whose content is UTF-8: UTF8, numeric, printable, teletex, videotex, IA5,
graphic, visible and general strings, and object descriptors. -/
def textTags : List Nat := [12, 18, 19, 20, 21, 22, 25, 26, 27, 7]

/-- The tag of a string of sixteen-bit units. -/
def wideTag : Nat := 30

/-- The big-endian sixteen-bit units of some bytes; an odd last byte is a unit. -/
def units16 : List UInt8 → List Nat
  | a :: b :: rest => (a.toNat * 256 + b.toNat) :: units16 rest
  | [a] => [a.toNat]
  | [] => []

/-- The characters that sixteen-bit units stand for; a surrogate must be paired. -/
def ofUnits16? : List Nat → Option (List Char)
  | [] => some []
  | a :: rest =>
    if 0xD800 ≤ a && a ≤ 0xDFFF then
      match rest with
      | b :: rest =>
        if a ≤ 0xDBFF && 0xDC00 ≤ b && b ≤ 0xDFFF then
          (ofUnits16? rest).map
            (Char.ofNat (0x10000 + (a - 0xD800) * 1024 + (b - 0xDC00)) :: ·)
        else none
      | [] => none
    else (ofUnits16? rest).map (Char.ofNat a :: ·)

/-- The text of a value: decoded if it is a string, else the digits of its bytes. -/
def valueText? (a : Attribute) : Option String :=
  if textTags.contains a.valueTag then (Text.utf8Decode? a.value).map String.ofList
  else if a.valueTag = wideTag then (ofUnits16? (units16 a.value)).map String.ofList
  else some (Text.hexUpper a.value)

/-- The text of an attribute. -/
def attributeText? (a : Attribute) : Option String :=
  (valueText? a).map fun v => a.type.label ++ "=" ++ v

/-- The text of a relative name: its attributes joined by ` + `. -/
def partText? (part : List Attribute) : Option String :=
  (part.mapM attributeText?).map (" + ".intercalate ·)

/-- The text of a name, unless a value cannot be decoded. -/
def text? (n : Name) : Option String := (n.parts.mapM partText?).map (", ".intercalate ·)

/-- What stands for a name that has no text. -/
def unreadable : String := "<X509Error: Invalid X.509 name>"

/-- The display text of a name. -/
def text (n : Name) : String := n.text?.getD unreadable

/-- Take off an attribute. -/
def readAttribute : Reader Attribute :=
  readSequence fun bytes => do
    let (type, rest) ← readObjectIdentifier bytes
    let (value, rest) ← readElement rest
    some (⟨⟨type⟩, value.tag, value.content⟩, rest)

/-- Take off a set of one or more attributes. -/
def readPart : Reader (List Attribute) :=
  readSet fun bytes =>
    match readAll readAttribute bytes with
    | ([], _) => none
    | (attributes, rest) => some (attributes, rest)

/-- Take off a name. Reading stops without complaint at the first part that is not well
formed. -/
def read : Reader Name :=
  readSequence fun bytes =>
    let (parts, rest) := readAll readPart bytes
    some (⟨parts⟩, rest)

end Name

end AnchoredMetadata.Certificate
