import AnchoredMetadata.Bytes

/-!
# SHA-2

The digests of 256, 384 and 512 bits. They share one compression, over words
of 32 or 64 bits; a variant fixes the words, the round constants and the four
bit mixers.
-/

namespace AnchoredMetadata.Digest

/-- What distinguishes the two word sizes. -/
structure Sha2Variant (W : Type) where
  /-- Bytes in a word. -/
  wordBytes : Nat
  /-- One constant a round. -/
  constants : List W
  /-- The mixer of the first working word. -/
  bigSigma0 : W → W
  /-- The mixer of the fifth working word. -/
  bigSigma1 : W → W
  /-- The schedule mixer of the word fifteen back. -/
  smallSigma0 : W → W
  /-- The schedule mixer of the word two back. -/
  smallSigma1 : W → W
  /-- A word from its number. -/
  ofNat : Nat → W
  /-- The number of a word. -/
  toNat : W → Nat

/-- The eight working words. -/
structure Sha2State (W : Type) where
  (a b c d e f g h : W)

/-- Cut bytes into pieces of a size; the count of pieces is given. -/
def pieces (size : Nat) : (count : Nat) → List UInt8 → List (List UInt8)
  | 0, _ => []
  | count + 1, bytes => bytes.take size :: pieces size count (bytes.drop size)

/-- Append a one bit, zero bits and the bit length, to whole blocks of `block` bytes. The
length takes an eighth of a block. -/
def padMessage (block : Nat) (message : List UInt8) : List UInt8 :=
  let used := message.length + 1 + block / 8
  let zeros := (block - used % block) % block
  message ++ 0x80 :: List.replicate zeros 0 ++ Bytes.ofNat (block / 8) (message.length * 8)

namespace Sha2Variant

variable {W : Type} [Add W] [XorOp W] [AndOp W] [Complement W]

/-- The words of the schedule, from a window of the sixteen latest. -/
def schedule (v : Sha2Variant W) : (more : Nat) → List W → List W
  | 0, window => window
  | more + 1, window =>
    match window with
    | w₀ :: w₁ :: w₂ :: w₃ :: w₄ :: w₅ :: w₆ :: w₇ :: w₈ :: w₉ :: w₁₀ :: w₁₁ :: w₁₂ :: w₁₃ ::
        w₁₄ :: w₁₅ :: _ =>
      let next := v.smallSigma1 w₁₄ + w₉ + v.smallSigma0 w₁ + w₀
      w₀ :: schedule v more
        [w₁, w₂, w₃, w₄, w₅, w₆, w₇, w₈, w₉, w₁₀, w₁₁, w₁₂, w₁₃, w₁₄, w₁₅, next]
    | short => short

/-- One round, with its constant and schedule word. -/
def round (v : Sha2Variant W) (s : Sha2State W) (k w : W) : Sha2State W :=
  let choice := (s.e &&& s.f) ^^^ (~~~s.e &&& s.g)
  let majority := (s.a &&& s.b) ^^^ (s.a &&& s.c) ^^^ (s.b &&& s.c)
  let t₁ := s.h + v.bigSigma1 s.e + choice + k + w
  let t₂ := v.bigSigma0 s.a + majority
  ⟨t₁ + t₂, s.a, s.b, s.c, s.d + t₁, s.e, s.f, s.g⟩

/-- Take in a block. -/
def absorb (v : Sha2Variant W) (s : Sha2State W) (block : List UInt8) : Sha2State W :=
  let words := (pieces v.wordBytes 16 block).map fun p => v.ofNat (Bytes.toNat p)
  let scheduled := v.schedule (v.constants.length - 16) words
  let t := (v.constants.zip scheduled).foldl (fun t (k, w) => v.round t k w) s
  ⟨s.a + t.a, s.b + t.b, s.c + t.c, s.d + t.d, s.e + t.e, s.f + t.f, s.g + t.g, s.h + t.h⟩

/-- The digest of a message from given starting words, in full length. -/
def digest (v : Sha2Variant W) (start : Sha2State W) (message : List UInt8) : List UInt8 :=
  let block := 16 * v.wordBytes
  let padded := padMessage block message
  let s := (pieces block (padded.length / block) padded).foldl v.absorb start
  [s.a, s.b, s.c, s.d, s.e, s.f, s.g, s.h].flatMap fun w => Bytes.ofNat v.wordBytes (v.toNat w)

end Sha2Variant

/-- Rotate a word of 32 bits to the right. -/
def rotateRight32 (w : UInt32) (n : UInt32) : UInt32 := (w >>> n) ||| (w <<< (32 - n))

/-- Rotate a word of 64 bits to the right. -/
def rotateRight64 (w : UInt64) (n : UInt64) : UInt64 := (w >>> n) ||| (w <<< (64 - n))

/-- Words of 32 bits in 64 rounds. -/
def sha2Words32 : Sha2Variant UInt32 where
  wordBytes := 4
  constants := [
  0x428a2f98, 0x71374491, 0xb5c0fbcf, 0xe9b5dba5, 0x3956c25b, 0x59f111f1,
  0x923f82a4, 0xab1c5ed5, 0xd807aa98, 0x12835b01, 0x243185be, 0x550c7dc3,
  0x72be5d74, 0x80deb1fe, 0x9bdc06a7, 0xc19bf174, 0xe49b69c1, 0xefbe4786,
  0x0fc19dc6, 0x240ca1cc, 0x2de92c6f, 0x4a7484aa, 0x5cb0a9dc, 0x76f988da,
  0x983e5152, 0xa831c66d, 0xb00327c8, 0xbf597fc7, 0xc6e00bf3, 0xd5a79147,
  0x06ca6351, 0x14292967, 0x27b70a85, 0x2e1b2138, 0x4d2c6dfc, 0x53380d13,
  0x650a7354, 0x766a0abb, 0x81c2c92e, 0x92722c85, 0xa2bfe8a1, 0xa81a664b,
  0xc24b8b70, 0xc76c51a3, 0xd192e819, 0xd6990624, 0xf40e3585, 0x106aa070,
  0x19a4c116, 0x1e376c08, 0x2748774c, 0x34b0bcb5, 0x391c0cb3, 0x4ed8aa4a,
  0x5b9cca4f, 0x682e6ff3, 0x748f82ee, 0x78a5636f, 0x84c87814, 0x8cc70208,
  0x90befffa, 0xa4506ceb, 0xbef9a3f7, 0xc67178f2]
  bigSigma0 w := rotateRight32 w 2 ^^^ rotateRight32 w 13 ^^^ rotateRight32 w 22
  bigSigma1 w := rotateRight32 w 6 ^^^ rotateRight32 w 11 ^^^ rotateRight32 w 25
  smallSigma0 w := rotateRight32 w 7 ^^^ rotateRight32 w 18 ^^^ (w >>> 3)
  smallSigma1 w := rotateRight32 w 17 ^^^ rotateRight32 w 19 ^^^ (w >>> 10)
  ofNat := UInt32.ofNat
  toNat := UInt32.toNat

/-- Words of 64 bits in 80 rounds. -/
def sha2Words64 : Sha2Variant UInt64 where
  wordBytes := 8
  constants := [
  0x428a2f98d728ae22, 0x7137449123ef65cd, 0xb5c0fbcfec4d3b2f, 0xe9b5dba58189dbbc,
  0x3956c25bf348b538, 0x59f111f1b605d019, 0x923f82a4af194f9b, 0xab1c5ed5da6d8118,
  0xd807aa98a3030242, 0x12835b0145706fbe, 0x243185be4ee4b28c, 0x550c7dc3d5ffb4e2,
  0x72be5d74f27b896f, 0x80deb1fe3b1696b1, 0x9bdc06a725c71235, 0xc19bf174cf692694,
  0xe49b69c19ef14ad2, 0xefbe4786384f25e3, 0x0fc19dc68b8cd5b5, 0x240ca1cc77ac9c65,
  0x2de92c6f592b0275, 0x4a7484aa6ea6e483, 0x5cb0a9dcbd41fbd4, 0x76f988da831153b5,
  0x983e5152ee66dfab, 0xa831c66d2db43210, 0xb00327c898fb213f, 0xbf597fc7beef0ee4,
  0xc6e00bf33da88fc2, 0xd5a79147930aa725, 0x06ca6351e003826f, 0x142929670a0e6e70,
  0x27b70a8546d22ffc, 0x2e1b21385c26c926, 0x4d2c6dfc5ac42aed, 0x53380d139d95b3df,
  0x650a73548baf63de, 0x766a0abb3c77b2a8, 0x81c2c92e47edaee6, 0x92722c851482353b,
  0xa2bfe8a14cf10364, 0xa81a664bbc423001, 0xc24b8b70d0f89791, 0xc76c51a30654be30,
  0xd192e819d6ef5218, 0xd69906245565a910, 0xf40e35855771202a, 0x106aa07032bbd1b8,
  0x19a4c116b8d2d0c8, 0x1e376c085141ab53, 0x2748774cdf8eeb99, 0x34b0bcb5e19b48a8,
  0x391c0cb3c5c95a63, 0x4ed8aa4ae3418acb, 0x5b9cca4f7763e373, 0x682e6ff3d6b2b8a3,
  0x748f82ee5defb2fc, 0x78a5636f43172f60, 0x84c87814a1f0ab72, 0x8cc702081a6439ec,
  0x90befffa23631e28, 0xa4506cebde82bde9, 0xbef9a3f7b2c67915, 0xc67178f2e372532b,
  0xca273eceea26619c, 0xd186b8c721c0c207, 0xeada7dd6cde0eb1e, 0xf57d4f7fee6ed178,
  0x06f067aa72176fba, 0x0a637dc5a2c898a6, 0x113f9804bef90dae, 0x1b710b35131c471b,
  0x28db77f523047d84, 0x32caab7b40c72493, 0x3c9ebe0a15c9bebc, 0x431d67c49c100d4c,
  0x4cc5d4becb3e42b6, 0x597f299cfc657e2a, 0x5fcb6fab3ad6faec, 0x6c44198c4a475817]
  bigSigma0 w := rotateRight64 w 28 ^^^ rotateRight64 w 34 ^^^ rotateRight64 w 39
  bigSigma1 w := rotateRight64 w 14 ^^^ rotateRight64 w 18 ^^^ rotateRight64 w 41
  smallSigma0 w := rotateRight64 w 1 ^^^ rotateRight64 w 8 ^^^ (w >>> 7)
  smallSigma1 w := rotateRight64 w 19 ^^^ rotateRight64 w 61 ^^^ (w >>> 6)
  ofNat := UInt64.ofNat
  toNat := UInt64.toNat

/-- The digest of 256 bits. -/
def sha256 (message : List UInt8) : List UInt8 :=
  sha2Words32.digest ⟨0x6a09e667, 0xbb67ae85, 0x3c6ef372, 0xa54ff53a, 0x510e527f, 0x9b05688c,
    0x1f83d9ab, 0x5be0cd19⟩ message

/-- The digest of 512 bits. -/
def sha512 (message : List UInt8) : List UInt8 :=
  sha2Words64.digest ⟨0x6a09e667f3bcc908, 0xbb67ae8584caa73b, 0x3c6ef372fe94f82b,
    0xa54ff53a5f1d36f1, 0x510e527fade682d1, 0x9b05688c2b3e6c1f,
    0x1f83d9abfb41bd6b, 0x5be0cd19137e2179⟩ message

/-- The digest of 384 bits: a digest of 512 bits from other starting words, cut short. -/
def sha384 (message : List UInt8) : List UInt8 :=
  (sha2Words64.digest ⟨0xcbbb9d5dc1059ed8, 0x629a292a367cd507, 0x9159015a3070dd17,
    0x152fecd8f70e5939, 0x67332667ffc00b31, 0x8eb44a8768581511,
    0xdb0c2e0d64f98fa7, 0x47b5481dbefa4fa4⟩ message).take 48

end AnchoredMetadata.Digest
