/-!
# Modular arithmetic

Powers and inverses modulo a number, by binary exponentiation.
-/

namespace AnchoredMetadata.Signature

/-- The lowest `width` bits of a number, highest first. -/
def bitsOf (width n : Nat) : List Bool :=
  (List.range width).map fun i => n.testBit (width - 1 - i)

/-- The number of bits of a number; none for zero. -/
def bitLength (n : Nat) : Nat := if n = 0 then 0 else n.log2 + 1

/-- `base ^ exponent` modulo `m`. -/
def powMod (base exponent m : Nat) : Nat :=
  (bitsOf (bitLength exponent) exponent).foldl
    (fun acc bit => let square := acc * acc % m
      if bit then square * base % m else square) (1 % m)

/-- The inverse modulo a prime; zero for zero. -/
def invMod (a p : Nat) : Nat := powMod a (p - 2) p

/-- The difference modulo a number above both. -/
def subMod (a b m : Nat) : Nat := (a + m - b) % m

example : powMod 3 5 7 = 5 := by decide
example : invMod 3 7 = 5 := by decide

end AnchoredMetadata.Signature
