import AnchoredMetadata.Digest.Sha2
import AnchoredMetadata.Signature.Integers
import AnchoredMetadata.Signature.Modular

/-!
# ECDSA signatures

Curves `y² = x³ - 3x + b` over a prime field. Points are held with a common
denominator, so that adding them needs no inverse; a zero denominator stands
for the neutral point.
-/

namespace AnchoredMetadata.Signature

/-- A curve with a base point. -/
structure Curve where
  /-- The prime of the field. -/
  prime : Nat
  /-- The constant term. -/
  b : Nat
  /-- The order of the base point. -/
  order : Nat
  /-- The base point. -/
  base : Nat × Nat
  /-- Bytes in a coordinate. -/
  size : Nat

/-- The curve P-256. -/
def p256 : Curve where
  prime := 0xffffffff00000001000000000000000000000000ffffffffffffffffffffffff
  b := 0x5ac635d8aa3a93e7b3ebbd55769886bc651d06b0cc53b0f63bce3c3e27d2604b
  order := 0xffffffff00000000ffffffffffffffffbce6faada7179e84f3b9cac2fc632551
  base := (0x6b17d1f2e12c4247f8bce6e563a440f277037d812deb33a0f4a13945d898c296,
    0x4fe342e2fe1a7f9b8ee7eb4a7c0f9e162bce33576b315ececbb6406837bf51f5)
  size := 32

/-- The curve P-384. -/
def p384 : Curve where
  prime := 0xfffffffffffffffffffffffffffffffffffffffffffffffffffffffffffffffeffffffff0000000000000000ffffffff
  b := 0xb3312fa7e23ee7e4988e056be3f82d19181d9c6efe8141120314088f5013875ac656398d8a2ed19d2a85c8edd3ec2aef
  order := 0xffffffffffffffffffffffffffffffffffffffffffffffffc7634d81f4372ddf581a0db248b0a77aecec196accc52973
  base := (0xaa87ca22be8b05378eb1c71ef320ad746e1d3b628ba79b9859f741e082542a385502f25dbf55296c3a545e3872760ab7,
    0x3617de4a96262c6f5d9e98bf9292dc29f8f41dbd289a147ce9da3113b5f0b8c00a60b1ce1d7e819d7a431d7c90ea0e5f)
  size := 48

/-- A point as `(x / z², y / z³)`; the neutral point has `z = 0`. -/
structure JacobianPoint where
  (x y z : Nat)
  deriving DecidableEq, Repr

namespace Curve

variable (c : Curve)

/-- The neutral point. -/
def neutral : JacobianPoint := ⟨1, 1, 0⟩

/-- A point added to itself. -/
def double (q : JacobianPoint) : JacobianPoint :=
  let p := c.prime
  let delta := q.z * q.z % p
  let gamma := q.y * q.y % p
  let beta := q.x * gamma % p
  let alpha := 3 * (subMod q.x delta p * (q.x + delta)) % p
  let x := subMod (alpha * alpha % p) (8 * beta % p) p
  let z := subMod (subMod ((q.y + q.z) * (q.y + q.z) % p) gamma p) delta p
  let y := subMod (alpha * subMod (4 * beta % p) x p % p) (8 * (gamma * gamma % p) % p) p
  ⟨x, y, z⟩

/-- The sum of two points. -/
def add (q r : JacobianPoint) : JacobianPoint :=
  let p := c.prime
  if q.z = 0 then r
  else if r.z = 0 then q
  else
    let zz₁ := q.z * q.z % p
    let zz₂ := r.z * r.z % p
    let u₁ := q.x * zz₂ % p
    let u₂ := r.x * zz₁ % p
    let s₁ := q.y * r.z % p * zz₂ % p
    let s₂ := r.y * q.z % p * zz₁ % p
    if u₁ = u₂ then (if s₁ = s₂ then c.double q else neutral)
    else
      let h := subMod u₂ u₁ p
      let k := subMod s₂ s₁ p
      let hh := h * h % p
      let hhh := h * hh % p
      let v := u₁ * hh % p
      let x := subMod (subMod (k * k % p) hhh p) (2 * v % p) p
      let y := subMod (k * subMod v x p % p) (s₁ * hhh % p) p
      ⟨x, y, h * (q.z * r.z % p) % p⟩

/-- The sum of `m` times one point and `n` times another, bit by bit. -/
def combine (m : Nat) (q : JacobianPoint) (n : Nat) (r : JacobianPoint) : JacobianPoint :=
  let both := c.add q r
  let width := c.size * 8
  ((bitsOf width m).zip (bitsOf width n)).foldl
    (fun acc bits =>
      let acc := c.double acc
      match bits with
      | (false, false) => acc
      | (true, false) => c.add acc q
      | (false, true) => c.add acc r
      | (true, true) => c.add acc both)
    neutral

/-- The first coordinate of a point that is not neutral. -/
def firstCoordinate (q : JacobianPoint) : Nat :=
  let inverse := invMod q.z c.prime
  q.x * (inverse * inverse % c.prime) % c.prime

/-- Whether coordinates are of the field and satisfy the equation. -/
def isOnCurve (x y : Nat) : Bool :=
  let p := c.prime
  x < p && y < p && y * y % p = (subMod (x * x % p * x % p) (3 * x % p) p + c.b) % p

/-- The point that an uncompressed encoding holds. -/
def point? (key : List UInt8) : Option (Nat × Nat) :=
  match key with
  | 4 :: coordinates =>
    let x := Bytes.toNat (coordinates.take c.size)
    let y := Bytes.toNat (coordinates.drop c.size)
    if coordinates.length = 2 * c.size && c.isOnCurve x y then some (x, y) else none
  | _ => none

/-- Check a signature over the digest of a message with an encoded key. Of a digest longer
than a coordinate the front part counts. -/
def verify (digest : List UInt8 → List UInt8) (key message signature : List UInt8) : Bool :=
  match c.point? key, positivePair? signature with
  | some (x, y), some (rBytes, sBytes) =>
    let r := Bytes.toNat rBytes
    let s := Bytes.toNat sBytes
    let e := Bytes.toNat ((digest message).take c.size) % c.order
    let inverse := invMod s c.order
    let q := c.combine (e * inverse % c.order) ⟨c.base.1, c.base.2, 1⟩
      (r * inverse % c.order) ⟨x, y, 1⟩
    r < c.order && s < c.order && q.z ≠ 0 && c.firstCoordinate q % c.order = r
  | _, _ => false

end Curve

end AnchoredMetadata.Signature
