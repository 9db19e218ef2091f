import AnchoredMetadata.Digest.Sha2

/-!
# SHA-1

The digest of 160 bits. Old certificates are still signed over it.
-/

namespace AnchoredMetadata.Digest

/-- The five working words. -/
structure Sha1State where
  (a b c d e : UInt32)

/-- Rotate a word to the left. -/
def rotateLeft32 (w : UInt32) (n : UInt32) : UInt32 := (w <<< n) ||| (w >>> (32 - n))

/-- The words of the schedule, from a window of the sixteen latest. -/
def sha1Schedule : (more : Nat) → List UInt32 → List UInt32
  | 0, window => window
  | more + 1, window =>
    match window with
    | w₀ :: w₁ :: w₂ :: w₃ :: w₄ :: w₅ :: w₆ :: w₇ :: w₈ :: w₉ :: w₁₀ :: w₁₁ :: w₁₂ :: w₁₃ ::
        w₁₄ :: w₁₅ :: _ =>
      let next := rotateLeft32 (w₁₃ ^^^ w₈ ^^^ w₂ ^^^ w₀) 1
      w₀ :: sha1Schedule more
        [w₁, w₂, w₃, w₄, w₅, w₆, w₇, w₈, w₉, w₁₀, w₁₁, w₁₂, w₁₃, w₁₄, w₁₅, next]
    | short => short

/-- The mixer and the constant of a round. -/
def sha1Mix (round : Nat) (b c d : UInt32) : UInt32 :=
  if round < 20 then ((b &&& c) ||| (~~~b &&& d)) + 0x5a827999
  else if round < 40 then (b ^^^ c ^^^ d) + 0x6ed9eba1
  else if round < 60 then ((b &&& c) ||| (b &&& d) ||| (c &&& d)) + 0x8f1bbcdc
  else (b ^^^ c ^^^ d) + 0xca62c1d6

/-- One round with its schedule word. -/
def sha1Round (s : Sha1State) (w : UInt32) (round : Nat) : Sha1State :=
  ⟨rotateLeft32 s.a 5 + sha1Mix round s.b s.c s.d + s.e + w, s.a, rotateLeft32 s.b 30, s.c, s.d⟩

/-- Take in a block of 64 bytes. -/
def sha1Absorb (s : Sha1State) (block : List UInt8) : Sha1State :=
  let words := (pieces 4 16 block).map fun p => UInt32.ofNat (Bytes.toNat p)
  let t := (sha1Schedule 64 words).zipIdx.foldl (fun t (w, i) => sha1Round t w i) s
  ⟨s.a + t.a, s.b + t.b, s.c + t.c, s.d + t.d, s.e + t.e⟩

/-- The digest of 160 bits. -/
def sha1 (message : List UInt8) : List UInt8 :=
  let padded := padMessage 64 message
  let s := (pieces 64 (padded.length / 64) padded).foldl sha1Absorb
    ⟨0x67452301, 0xefcdab89, 0x98badcfe, 0x10325476, 0xc3d2e1f0⟩
  [s.a, s.b, s.c, s.d, s.e].flatMap fun w => Bytes.ofNat 4 w.toNat

end AnchoredMetadata.Digest
