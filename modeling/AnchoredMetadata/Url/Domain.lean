import AnchoredMetadata.Text.Mark
import AnchoredMetadata.Text.Utf8
import AnchoredMetadata.Url.Address
import AnchoredMetadata.Url.Domain.Direction
import AnchoredMetadata.Url.Domain.Joining
import AnchoredMetadata.Url.Domain.Mapping
import AnchoredMetadata.Url.Domain.Punycode

/-!
# Domain names

The ASCII form of a domain name. A name is mapped and composed, its labels are
checked, and those that are not ASCII are written after `xn--`.
-/

namespace AnchoredMetadata.Url

/-- Characters that no domain name holds. -/
def isForbiddenInDomain (c : Char) : Bool :=
  c.toNat ≤ 0x20 || c.toNat = 0x7F ||
    ['%', '#', '/', ':', '<', '>', '?', '@', '[', '\\', ']', '^', '|'].contains c

/-- What stands before a label that is written in ASCII. -/
def encodedMark : List Char := ['x', 'n', '-', '-']

/-- Whether every character is ASCII. -/
def isAscii (cs : List Char) : Bool := cs.all fun c => c.toNat < 128

/-- Whether a label that is not ASCII may stand in a name: it starts with no mark, its joiners
stand well, and it has at most a thousand characters. -/
def isLabel (label : List Char) : Bool :=
  !label.head?.any Text.isMark && joinersStandWell [] label && label.length ≤ 1000

/-- The label that a label in ASCII after its mark is written for. At most two thousand
characters are read, and only a label that is not ASCII and stands for itself is written so. -/
def decodedLabel? (written : List Char) : Option (List Char) := do
  guard (written.length ≤ 2000)
  let label ← Punycode.decode? written
  guard (!isAscii label && isMapped label && !encodedMark.isPrefixOf label)
  return label

/-- The label that a mapped label shows. -/
def shownLabel? (label : List Char) : Option (List Char) := do
  let shown ←
    if encodedMark.isPrefixOf label then decodedLabel? (label.drop encodedMark.length)
    else some label
  guard (isAscii shown || isLabel shown)
  return shown

/-- A label in ASCII. -/
def labelText (label : List Char) : List Char :=
  if isAscii label then label else encodedMark ++ Punycode.encode label

/-- Labels with a dot between them. -/
def joinLabels : List (List Char) → List Char
  | [] => []
  | [label] => label
  | label :: rest => label ++ '.' :: joinLabels rest

/-- A name in lower case; one that is not ASCII is mapped. -/
def plainName? (cs : List Char) : Option (List Char) :=
  if isAscii cs then some (cs.map Char.toLower) else mapped? cs

/-- The ASCII form of such a name, if its labels are allowed and their order can be told. -/
def writtenName? (name : List Char) : Option (List Char) := do
  let shown ← (labels name).mapM shownLabel?
  let text := joinLabels (shown.map labelText)
  if areOrdered shown && !text.any isForbiddenInDomain then some text else none

/-- The ASCII form of the domain name in some bytes. -/
def domain? (bytes : List UInt8) : Option (List Char) := do
  writtenName? (← plainName? (← Text.utf8Decode? bytes))

end AnchoredMetadata.Url
