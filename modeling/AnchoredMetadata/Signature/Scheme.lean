import AnchoredMetadata.Certificate.Content
import AnchoredMetadata.Signature.Ecdsa
import AnchoredMetadata.Signature.Ed25519
import AnchoredMetadata.Signature.Rsa

/-!
# Signature schemes

The scheme of a signature follows from its algorithm and, for elliptic curves,
from the curve that the signer's key names.
-/

namespace AnchoredMetadata.Signature

open Certificate

/-- The schemes that can be checked. -/
inductive Scheme where
  /-- RSA with some digest. -/
  | rsa (digest : RsaDigest)
  /-- ECDSA with some digest; the curve comes from the key. -/
  | ecdsa (digest : List UInt8 → List UInt8)
  /-- Ed25519. -/
  | ed25519

/-- The scheme that an algorithm names. -/
def Scheme.ofAlgorithm? (algorithm : ObjectIdentifier) : Option Scheme :=
  match algorithm.content with
  | [0x2A, 0x86, 0x48, 0x86, 0xF7, 0x0D, 0x01, 0x01, last] =>
    if last = 5 then some (.rsa rsaSha1)
    else if last = 11 then some (.rsa rsaSha256)
    else if last = 12 then some (.rsa rsaSha384)
    else if last = 13 then some (.rsa rsaSha512)
    else none
  | [0x2B, 0x0E, 0x03, 0x02, 0x1D] => some (.rsa rsaSha1)
  | [0x2A, 0x86, 0x48, 0xCE, 0x3D, 0x04, 0x03, 0x02] => some (.ecdsa Digest.sha256)
  | [0x2A, 0x86, 0x48, 0xCE, 0x3D, 0x04, 0x03, 0x03] => some (.ecdsa Digest.sha384)
  | [0x2B, 0x65, 0x70] => some .ed25519
  | _ => none

/-- The curve that the parameters of a key name. -/
def curveOf? (key : PublicKey) : Option Curve := do
  let parameters ← key.algorithm.parameters
  if parameters.tag ≠ Der.objectIdentifierTag then none
  else
    match parameters.content with
    | [0x2A, 0x86, 0x48, 0xCE, 0x3D, 0x03, 0x01, 0x07] => some p256
    | [0x2B, 0x81, 0x04, 0x00, 0x22] => some p384
    | _ => none

/-- Whether a signature of a message was made with the private half of a key. -/
def verify (algorithm : ObjectIdentifier) (key : PublicKey) (message signature : List UInt8) :
    Bool :=
  match Scheme.ofAlgorithm? algorithm with
  | none => false
  | some (.rsa digest) => rsaVerify digest key.bits message signature
  | some (.ecdsa digest) =>
    match curveOf? key with
    | some curve => curve.verify digest key.bits message signature
    | none => false
  | some .ed25519 => Ed25519.verify key.bits message signature

end AnchoredMetadata.Signature
