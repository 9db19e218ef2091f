import AnchoredMetadata.Bytes

/-!
# Encoded integers

RSA keys and ECDSA signatures are sequences of two positive integers. Here the
encoding is strict: lengths and integers in their shortest form, and nothing
left over.
-/

namespace AnchoredMetadata.Signature

/-- A length in its shortest form, of at most two further bytes. -/
def readShortestLength : List UInt8 → Option (Nat × List UInt8)
  | 0x81 :: a :: rest => if 0x80 ≤ a then some (a.toNat, rest) else none
  | 0x82 :: a :: b :: rest => if a ≠ 0 then some (a.toNat * 256 + b.toNat, rest) else none
  | a :: rest => if a < 0x80 then some (a.toNat, rest) else none
  | [] => none

/-- Take off the content of an element that starts with the given identifier byte. -/
def readStrict (identifier : UInt8) : List UInt8 → Option (List UInt8 × List UInt8)
  | a :: rest => do
    let (length, rest) ← readShortestLength rest
    if a = identifier && length ≤ rest.length then some (rest.take length, rest.drop length)
    else none
  | [] => none

/-- Take off a positive integer and give its bytes without the sign byte. -/
def readPositive (bytes : List UInt8) : Option (List UInt8 × List UInt8) := do
  let (content, rest) ← readStrict 0x02 bytes
  match content with
  | [] => none
  | [a] => if a = 0 || 0x80 ≤ a then none else some ([a], rest)
  | a :: b :: more =>
    if a = 0 then (if b < 0x80 then none else some (b :: more, rest))
    else if 0x80 ≤ a then none
    else some (a :: b :: more, rest)

/-- The two positive integers that make up the whole of some bytes. -/
def positivePair? (bytes : List UInt8) : Option (List UInt8 × List UInt8) := do
  let (content, rest) ← readStrict 0x30 bytes
  let (a, afterFirst) ← readPositive content
  let (b, afterSecond) ← readPositive afterFirst
  if rest.isEmpty && afterSecond.isEmpty then some (a, b) else none

end AnchoredMetadata.Signature
