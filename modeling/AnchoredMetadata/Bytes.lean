/-!
# Numbers as bytes

Unsigned numbers written with the most significant byte first.
-/

namespace AnchoredMetadata.Bytes

/-- The number that bytes hold. -/
def toNat (bytes : List UInt8) : Nat := bytes.foldl (fun n b => n * 256 + b.toNat) 0

/-- A number in a given count of bytes; higher bytes are dropped. -/
def ofNat (count n : Nat) : List UInt8 :=
  (List.range count).map fun i => UInt8.ofNat (n / Nat.pow 256 (count - 1 - i))

/-- Drop the zero bytes at the front. -/
def dropLeadingZeros (bytes : List UInt8) : List UInt8 := bytes.dropWhile (· = 0)

@[simp] theorem toNat_nil : toNat [] = 0 := rfl

@[simp] theorem length_ofNat (count n : Nat) : (ofNat count n).length = count := by
  simp [ofNat]

end AnchoredMetadata.Bytes
