import AnchoredMetadata.Digest.Sha2
import AnchoredMetadata.Signature.Modular

/-!
# Ed25519 signatures

The curve `-x² + y² = 1 + d x² y²` over the field of `2²⁵⁵ - 19` elements.
Numbers are written with the least significant byte first.
-/

namespace AnchoredMetadata.Signature.Ed25519

/-- The prime of the field. -/
def prime : Nat := Nat.pow 2 255 - 19

/-- The order of the base point. -/
def order : Nat := Nat.pow 2 252 + 27742317777372353535851937790883648493

/-- The constant of the curve. -/
def d : Nat := 37095705934669439343138083508754565189542113879843219016388785533085940283555

/-- A square root of minus one. -/
def rootOfMinusOne : Nat :=
  19681161376707505956807079304988542015446066515923890162744021073123829784752

/-- A point as `(x / z, y / z)`, with `t = x y / z`. -/
structure Point where
  (x y z t : Nat)
  deriving DecidableEq, Repr

/-- The neutral point. -/
def neutral : Point := ⟨0, 1, 1, 0⟩

/-- The base point. -/
def base : Point :=
  let x := 15112221349535400772501151409588531511454012693041857206046113283949847762202
  let y := 46316835694926478169428394003475163141307993866256225615783033603165251855960
  ⟨x, y, 1, x * y % prime⟩

/-- The sum of two points. -/
def add (q r : Point) : Point :=
  let a := subMod q.y q.x prime * subMod r.y r.x prime % prime
  let b := (q.y + q.x) * (r.y + r.x) % prime
  let c := q.t * (2 * d % prime) % prime * r.t % prime
  let dd := 2 * q.z * r.z % prime
  let e := subMod b a prime
  let f := subMod dd c prime
  let g := (dd + c) % prime
  let h := (b + a) % prime
  ⟨e * f % prime, g * h % prime, f * g % prime, e * h % prime⟩

/-- The negative of a point. -/
def negate (q : Point) : Point := ⟨subMod 0 q.x prime, q.y, q.z, subMod 0 q.t prime⟩

/-- The sum of `m` times one point and `n` times another, bit by bit. -/
def combine (m : Nat) (q : Point) (n : Nat) (r : Point) : Point :=
  let both := add q r
  ((bitsOf 253 m).zip (bitsOf 253 n)).foldl
    (fun acc bits =>
      let acc := add acc acc
      match bits with
      | (false, false) => acc
      | (true, false) => add acc q
      | (false, true) => add acc r
      | (true, true) => add acc both)
    neutral

/-- The number that bytes hold, least significant first. -/
def toNat (bytes : List UInt8) : Nat := Bytes.toNat bytes.reverse

/-- The point with a given second coordinate and sign of the first. -/
def point? (bytes : List UInt8) : Option Point :=
  let n := toNat bytes
  let y := n % Nat.pow 2 255 % prime
  let u := subMod (y * y % prime) 1 prime
  let v := (d * (y * y % prime) + 1) % prime
  let v₃ := v * v % prime * v % prime
  let v₇ := v₃ * v₃ % prime * v % prime
  let x := u * v₃ % prime * powMod (u * v₇ % prime) ((prime - 5) / 8) prime % prime
  let check := v * (x * x % prime) % prime
  let root :=
    if check = u then some x
    else if check = subMod 0 u prime then some (x * rootOfMinusOne % prime)
    else none
  root.map fun x =>
    let x := if x % 2 = n / Nat.pow 2 255 % 2 then x else subMod 0 x prime
    ⟨x, y, 1, x * y % prime⟩

/-- The encoding of a point. -/
def encode (q : Point) : List UInt8 :=
  let inverse := invMod q.z prime
  let x := q.x * inverse % prime
  let y := q.y * inverse % prime
  (Bytes.ofNat 32 (y + x % 2 * Nat.pow 2 255)).reverse

/-- Check a signature of a message with an encoded key. -/
def verify (key message signature : List UInt8) : Bool :=
  let r := signature.take 32
  let s := toNat (signature.drop 32)
  key.length = 32 && signature.length = 64 && s < order &&
    match point? key with
    | none => false
    | some a =>
      let h := toNat (Digest.sha512 (r ++ key ++ message)) % order
      encode (combine s base h (negate a)) == r

end AnchoredMetadata.Signature.Ed25519
