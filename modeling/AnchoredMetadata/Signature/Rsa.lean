import AnchoredMetadata.Digest.Sha1
import AnchoredMetadata.Signature.Integers
import AnchoredMetadata.Signature.Modular

/-!
# RSA signatures

Signatures with the padding of PKCS #1 version 1.5. A signature holds if its
power is exactly the padded digest.
-/

namespace AnchoredMetadata.Signature

/-- A digest as RSA signatures use it. -/
structure RsaDigest where
  /-- The digest of a message. -/
  digest : List UInt8 → List UInt8
  /-- The encoded algorithm that stands before the digest. -/
  header : List UInt8
  /-- The least size of a key in bits. -/
  leastBits : Nat

/-- The header that announces a digest by the last part of its identifier and its size. -/
def sha2Header (part size : UInt8) : List UInt8 :=
  [0x30, 0x11 + size, 0x30, 0x0d, 0x06, 0x09, 0x60, 0x86, 0x48, 0x01, 0x65, 0x03, 0x04, 0x02, part,
    0x05, 0x00, 0x04, size]

/-- SHA-1, still taken with keys of 1024 bits. -/
def rsaSha1 : RsaDigest where
  digest := Digest.sha1
  header := [0x30, 0x21, 0x30, 0x09, 0x06, 0x05, 0x2b, 0x0e, 0x03, 0x02, 0x1a, 0x05, 0x00, 0x04, 0x14]
  leastBits := 1024

/-- SHA-256. -/
def rsaSha256 : RsaDigest := ⟨Digest.sha256, sha2Header 1 32, 2048⟩
/-- SHA-384. -/
def rsaSha384 : RsaDigest := ⟨Digest.sha384, sha2Header 2 48, 2048⟩
/-- SHA-512. -/
def rsaSha512 : RsaDigest := ⟨Digest.sha512, sha2Header 3 64, 2048⟩

/-- The padded digest, in as many bytes as the modulus has. -/
def rsaPadding (d : RsaDigest) (size : Nat) (message : List UInt8) : List UInt8 :=
  let tail := d.header ++ d.digest message
  [0x00, 0x01] ++ List.replicate (size - 3 - tail.length) 0xFF ++ 0x00 :: tail

/-- Check a signature with an encoded key. The modulus is odd and within the sizes of the
digest, up to 8192 bits; the exponent is odd, at least three and below 2 ^ 33. -/
def rsaVerify (d : RsaDigest) (key message signature : List UInt8) : Bool :=
  match positivePair? key with
  | none => false
  | some (modulus, exponent) =>
    let n := Bytes.toNat modulus
    let e := Bytes.toNat exponent
    let s := Bytes.toNat signature
    let size := modulus.length
    d.leastBits ≤ size * 8 && bitLength n ≤ 8192 && n % 2 = 1 &&
      3 ≤ e && e < 8589934592 && e % 2 = 1 &&
      signature.length = size && s < n &&
      Bytes.ofNat size (powMod s e n) == rsaPadding d size message

end AnchoredMetadata.Signature
