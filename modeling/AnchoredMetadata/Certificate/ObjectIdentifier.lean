/-!
# Object identifiers

An identifier is kept as its encoded content. Its arcs are read from there:
the first byte holds the first two arcs, each later arc is a run of seven-bit
groups. Attribute types that have a customary short name are shown by it.
-/

namespace AnchoredMetadata.Certificate

/-- The content of an encoded object identifier. -/
structure ObjectIdentifier where
  /-- The content bytes. -/
  content : List UInt8
  deriving DecidableEq, Repr

namespace ObjectIdentifier

/-- The arcs written as groups of seven bits, with the value gathered so far. A last group
that announces another one ends its arc all the same. -/
def laterArcs : (gathered : Nat) → (unfinished : Bool) → List UInt8 → List Nat
  | n, unfinished, [] => if unfinished then [n] else []
  | n, _, b :: rest =>
    let n := n * 128 + b.toNat % 128
    if b < 0x80 then n :: laterArcs 0 false rest else laterArcs n true rest

/-- The arcs of an identifier. -/
def arcs (o : ObjectIdentifier) : List Nat :=
  match o.content with
  | [] => []
  | [0] => [0]
  | b :: rest => b.toNat / 40 :: b.toNat % 40 :: laterArcs 0 false rest

/-- The arcs separated by dots. -/
def text (o : ObjectIdentifier) : String := ".".intercalate (o.arcs.map toString)

/-- Short names of identifiers that may stand as attribute types, by dotted text. -/
def shortNames : List (String × String) := [
  ("2.5.4.3", "CN"), ("2.5.4.6", "C"), ("2.5.4.7", "L"), ("2.5.4.8", "ST"),
  ("2.5.4.10", "O"), ("2.5.4.11", "OU"), ("0.9.2342.19200300.100.1.25", "DC"),
  ("1.2.840.113549.1.9.1", "Email"),
  ("0.9.2342.19200300.100.1.1", "uid"),
  ("2.5.4.0", "objectClass"), ("2.5.4.1", "aliasedEntryName"),
  ("2.5.4.2", "knowledgeInformation"), ("2.5.4.4", "surname"),
  ("2.5.4.5", "serialNumber"), ("2.5.4.9", "streetAddress"), ("2.5.4.12", "title"),
  ("2.5.4.13", "description"), ("2.5.4.14", "searchGuide"),
  ("2.5.4.15", "businessCategory"), ("2.5.4.16", "postalAddress"),
  ("2.5.4.17", "postalCode"), ("2.5.4.41", "name"), ("2.5.4.42", "givenName"),
  ("2.5.4.43", "initials"), ("2.5.4.44", "generationQualifier"),
  ("2.5.4.45", "uniqueIdentifier"), ("2.5.4.46", "dnQualifier"),
  ("1.2.840.113549.1.9.2", "unstructuredName"), ("1.2.840.113549.1.9.3", "contentType"),
  ("1.2.840.113549.1.9.4", "messageDigest"), ("1.2.840.113549.1.9.5", "signingTime"),
  ("1.2.840.113549.1.9.7", "challengePassword"),
  ("1.2.840.113549.1.9.8", "unstructuredAddress"),
  ("1.2.840.113549.1.9.14", "extensionRequest"),
  ("1.2.840.113549.1.9.20", "friendlyName"),
  ("1.2.840.113549.1.1.1", "rsaEncryption"),
  ("2.5.29.14", "subjectKeyIdentifier"), ("2.5.29.15", "keyUsage"),
  ("2.5.29.17", "subjectAltName"), ("2.5.29.18", "issuerAltName"),
  ("2.5.29.19", "basicConstraints"), ("2.5.29.30", "nameConstraints"),
  ("2.5.29.31", "crlDistributionPoints"), ("2.5.29.32", "certificatePolicies"),
  ("2.5.29.35", "authorityKeyIdentifier"), ("2.5.29.37", "extendedKeyUsage")]

/-- The short name of an attribute type, or its arcs. -/
def label (o : ObjectIdentifier) : String :=
  match shortNames.lookup o.text with
  | some name => name
  | none => "OID(" ++ o.text ++ ")"

end ObjectIdentifier

example : (ObjectIdentifier.mk [0x55, 0x04, 0x03]).label = "CN" := by decide +kernel
example : (ObjectIdentifier.mk [0x88, 0x37, 0x01]).label = "OID(3.16.55.1)" := by decide +kernel

end AnchoredMetadata.Certificate
