import AnchoredMetadata.Url.Domain.Table
import AnchoredMetadata.Text.Composition

/-!
# Mapping of domain names

The text that stands for a character in a domain name: letters in lower case,
compatibility forms by their plain ones, nothing for characters that are not
seen. Sharp s, final sigma and joiners stand for themselves. Some characters no
domain name holds.
-/

namespace AnchoredMetadata.Url

/-- How the characters of a range are treated. -/
inductive Treatment where
  /-- No domain name holds them. -/
  | refused
  /-- They are left out. -/
  | dropped
  /-- The character so many code points before stands for them. -/
  | lowered (distance : Nat)
  /-- The character so many code points after stands for them. -/
  | raised (distance : Nat)
  /-- The next character stands for the first, the third and so on; the others are kept. -/
  | alternating
  /-- A text stands for each of them. -/
  | spelled (texts : List (List Nat))
  deriving Repr

/-- A range of code points, ends included, with its treatment. -/
structure TreatedRange where
  /-- The first code point. -/
  first : Nat
  /-- The last code point. -/
  last : Nat
  /-- What is done to the characters in it. -/
  treatment : Treatment
  deriving Repr

/-- Read texts, each after its length, from numbers; also what is left. -/
def readTexts : Nat → List Nat → List (List Nat) × List Nat
  | 0, numbers => ([], numbers)
  | _ + 1, [] => ([], [])
  | n + 1, length :: numbers =>
    let (texts, rest) := readTexts n (numbers.drop length)
    (numbers.take length :: texts, rest)

/-- Read a treatment for so many characters; also what is left. -/
def readTreatment (count : Nat) : List Nat → Treatment × List Nat
  | 0 :: rest => (.refused, rest)
  | 1 :: rest => (.dropped, rest)
  | 2 :: distance :: rest => (.lowered distance, rest)
  | 3 :: distance :: rest => (.raised distance, rest)
  | 4 :: rest => (.alternating, rest)
  | _ :: rest => ((.spelled (readTexts count rest).1), (readTexts count rest).2)
  | [] => (.refused, [])

/-- The ranges that numbers describe, from a code point on: the gap before a range, its
length less one, and its treatment. There are at most so many. -/
def treatedRanges : Nat → Nat → List Nat → List TreatedRange
  | limit + 1, start, gap :: length :: numbers =>
    let first := start + gap
    let (treatment, rest) := readTreatment (length + 1) numbers
    ⟨first, first + length, treatment⟩ :: treatedRanges limit (first + length + 1) rest
  | _, _, _ => []

/-- The characters that are not kept. -/
def treatments : List TreatedRange :=
  let numbers := Text.numbersOfLines treatmentLines
  treatedRanges numbers.length 0 numbers

/-- The text that stands for a character. -/
def mappedChar? (c : Char) : Option (List Char) :=
  match treatments.find? fun r => r.first ≤ c.toNat && c.toNat ≤ r.last with
  | none => some [c]
  | some r =>
    match r.treatment with
    | .refused => none
    | .dropped => some []
    | .lowered distance => some [Char.ofNat (c.toNat - distance)]
    | .raised distance => some [Char.ofNat (c.toNat + distance)]
    | .alternating => some [Char.ofNat (c.toNat + (c.toNat - r.first + 1) % 2)]
    | .spelled texts => (texts[c.toNat - r.first]?).map fun t => t.map Char.ofNat

/-- The composed text that stands for a name. -/
def mapped? (cs : List Char) : Option (List Char) :=
  (cs.mapM mappedChar?).map fun texts => Text.composed texts.flatten

/-- Whether a text stands for itself. -/
def isMapped (cs : List Char) : Bool :=
  (cs.all fun c => mappedChar? c = some [c]) && Text.composed cs = cs

end AnchoredMetadata.Url
