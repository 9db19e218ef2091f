import AnchoredMetadata.Pem
import AnchoredMetadata.Signature.Scheme
import AnchoredMetadata.Text.Quoted

/-!
# Certificates

A certificate is its encoding together with what is read from it. Two
certificates are equal when their encodings are, bytes after the certificate
included. Issuing compares the display texts of names and then the signature.
-/

namespace AnchoredMetadata

open Certificate Time

/-- A certificate. -/
structure Certificate where
  /-- All bytes it was read from. -/
  encoding : List UInt8
  /-- What was read. -/
  content : Certificate.Content
  deriving Repr

/-- Why a certificate cannot be read. -/
inductive CertificateError where
  /-- The text is not base64. -/
  | notBase64 (cause : Base64.Error)
  /-- A block of a bundle is at fault. -/
  | badBlock (cause : Pem.Error)
  /-- The bytes are not a certificate. -/
  | unreadable
  deriving DecidableEq, Repr

/-- The wording of a refusal. -/
def CertificateError.message : CertificateError → String
  | .notBase64 e => "invalid certificate encoding: " ++ e.message
  | .badBlock e => "invalid certificate encoding: bad PEM block: " ++ e.message
  | .unreadable => "invalid certificate: x509 parse failed"

namespace Certificate

instance : BEq Certificate := ⟨fun a b => a.encoding == b.encoding⟩

/-- Certificates are compared by their encodings. -/
theorem beq_def (a b : Certificate) : (a == b) = (a.encoding == b.encoding) := rfl

/-- Read a certificate; bytes after it are kept but say nothing. -/
def ofEncoding (bytes : List UInt8) : Except CertificateError Certificate :=
  match Content.read bytes with
  | some (content, _) => .ok ⟨bytes, content⟩
  | none => .error .unreadable

/-- Read a certificate from base64; blank characters may stand anywhere. -/
def ofBase64 (text : String) : Except CertificateError Certificate :=
  match Base64.decode (Text.utf8Encode (Text.removeBlanks text.toList)) with
  | .ok bytes => ofEncoding bytes
  | .error e => .error (.notBase64 e)

/-- Read certificates from base64, up to the first that cannot be read. -/
def listOfBase64 (texts : List String) : Except CertificateError (List Certificate) :=
  texts.mapM ofBase64

/-- Read the certificate in a block; blocks of another kind hold none. -/
def ofBlock : Except Pem.Error Pem.Block → Except CertificateError (Option Certificate)
  | .error e => .error (.badBlock e)
  | .ok block =>
    if block.label = "CERTIFICATE".toList then (ofEncoding block.content).map some
    else .ok none

/-- Read every certificate of a bundle, in file order. -/
def listOfPem (bundle : List UInt8) : Except CertificateError (List Certificate) :=
  ((Pem.blocks bundle).mapM ofBlock).map fun found => found.filterMap id

/-- The encoding in base64. -/
def toBase64 (c : Certificate) : String := Base64.encodeString c.encoding

/-- The display text of the subject. -/
def subject (c : Certificate) : String := c.content.subject.text

/-- The display text of the issuer. -/
def issuer (c : Certificate) : String := c.content.issuer.text

/-- The serial number as an unsigned number in upper-case digits. -/
def serial (c : Certificate) : String :=
  match Bytes.dropLeadingZeros c.content.serial with
  | [] => "00"
  | bytes => Text.hexUpper bytes

/-- The first instant of validity. -/
def notBefore (c : Certificate) : Instant := c.content.validity.notBefore

/-- The last instant of validity. -/
def notAfter (c : Certificate) : Instant := c.content.validity.notAfter

/-- The encoded public key with its algorithm. -/
def publicKey (c : Certificate) : List UInt8 := c.content.key.encoding

/-- Whether the certificate is marked as an authority. -/
def isAuthority (c : Certificate) : Bool := c.content.isAuthority

/-- Whether subject and issuer have the same text. -/
def isSelfIssued (c : Certificate) : Bool := c.subject == c.issuer

/-- Whether an instant lies in the validity window, ends included. -/
def isValidAt (c : Certificate) (t : Instant) : Bool := c.content.validity.contains t

/-- Whether the signature on a certificate was made with the key of another. -/
def isSignedBy (c signer : Certificate) : Bool :=
  Signature.verify c.content.signatureAlgorithm signer.content.key c.content.signedPart
    c.content.signature

/-- Whether a certificate names another as its issuer and is signed by it. -/
def isIssuedBy (c issuer : Certificate) : Bool :=
  c.issuer == issuer.subject && c.isSignedBy issuer

/-- The SHA-256 digest of the encoding in lower-case digits. -/
def fingerprint (c : Certificate) : String := Text.hex (Digest.sha256 c.encoding)

/-- A line for diagnostics. -/
def description (c : Certificate) : String :=
  "Certificate \x7b subject: " ++ Text.quoted c.subject ++ ", issuer: " ++ Text.quoted c.issuer ++
    ", not_after: " ++ c.notAfter.text ++ ", fingerprint: " ++ Text.quoted c.fingerprint ++ " \x7d"

/-- Certificates by the end of their validity, soonest first; those that end together keep
their order. -/
def sortByExpiry (certificates : List Certificate) : List Certificate :=
  certificates.mergeSort fun a b => decide (a.notAfter ≤ b.notAfter)

/-- The soonest end of validity among some certificates. -/
def earliestExpiry : List Certificate → Option Instant
  | [] => none
  | c :: rest => some (rest.foldl (fun t d => t.earlier d.notAfter) c.notAfter)

end Certificate

end AnchoredMetadata
