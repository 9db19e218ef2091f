/-!
# Ranges of code points

Tables of the Unicode character database in compact text. The text is a row of
numbers in base 26, written in letters: the last digit of each number is in
upper case and all before it in lower case. A table names, in order, the gap
before a range, the length of the range less one, and the value that the
characters in the range have.
-/

namespace AnchoredMetadata.Text

/-- The numbers in a text, after some digits of the first one. -/
def packedNumbers (value : Nat) : List Char → List Nat
  | [] => []
  | c :: cs =>
    if c.isUpper then (value * 26 + (c.toNat - 65)) :: packedNumbers 0 cs
    else packedNumbers (value * 26 + (c.toNat - 97)) cs

/-- The numbers in lines of text. -/
def numbersOfLines (lines : List String) : List Nat :=
  packedNumbers 0 (lines.flatMap String.toList)

/-- A range of code points, ends included, with a value. -/
structure ValuedRange where
  /-- The first code point. -/
  first : Nat
  /-- The last code point. -/
  last : Nat
  /-- The value of the characters in it. -/
  value : Nat
  deriving Repr

/-- The ranges that numbers describe, from a code point on. -/
def valuedRanges (start : Nat) : List Nat → List ValuedRange
  | gap :: length :: value :: rest =>
    let first := start + gap
    ⟨first, first + length, value⟩ :: valuedRanges (first + length + 1) rest
  | _ => []

/-- The ranges in lines of text. -/
def rangesOfLines (lines : List String) : List ValuedRange := valuedRanges 0 (numbersOfLines lines)

/-- The value of a character in a table, if it is in one of its ranges. -/
def valueIn? (table : List ValuedRange) (c : Char) : Option Nat :=
  (table.find? fun r => r.first ≤ c.toNat && c.toNat ≤ r.last).map ValuedRange.value

end AnchoredMetadata.Text
