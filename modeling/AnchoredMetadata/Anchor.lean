import AnchoredMetadata.Certificate

/-!
# Trust anchors

An anchor ties an entity to a chain of certificates, leaf first, kept in
base64. Anchors are compared by value.
-/

namespace AnchoredMetadata

/-- An entity with its certificate chain. -/
structure Anchor where
  /-- The identifier of the entity. -/
  entityId : String
  /-- The certificates in base64, leaf first. -/
  chain : List String
  deriving DecidableEq, Repr

/-- Why the chain of an anchor cannot be read. -/
inductive ChainError where
  /-- The chain of an entity has no certificate. -/
  | empty (entityId : String)
  /-- A certificate cannot be read. -/
  | certificate (cause : CertificateError)
  deriving DecidableEq, Repr

/-- The wording of a refusal. -/
def ChainError.message : ChainError → String
  | .empty id => "trust anchor '" ++ id ++ "' has an empty certificate chain"
  | .certificate e => e.message

namespace Anchor

/-- The anchor of a chain of certificates. -/
def ofCertificates (entityId : String) (chain : List Certificate) : Anchor :=
  ⟨entityId, chain.map Certificate.toBase64⟩

/-- The certificates of the chain, or why there are none: the chain is empty, or the first
that cannot be read. -/
def certificates (a : Anchor) : Except ChainError (List Certificate) :=
  if a.chain.isEmpty then .error (.empty a.entityId)
  else
    match Certificate.listOfBase64 a.chain with
    | .ok chain => .ok chain
    | .error e => .error (.certificate e)

end Anchor

end AnchoredMetadata
