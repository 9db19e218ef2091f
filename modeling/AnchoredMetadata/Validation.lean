import AnchoredMetadata.TrustStore

/-!
# Certificate validation

A validator judges one certificate against a trust store. The default one
accepts a certificate within its validity that the store holds, or that an
entry of the store has issued: an authority or a self-issued certificate that
is itself within its validity. No path is built through other certificates.
-/

namespace AnchoredMetadata

open Time

/-- What a validator says of a certificate. -/
inductive Verdict where
  /-- The certificate is trusted. -/
  | accepted
  /-- The certificate is not trusted, and why. -/
  | rejected (reason : String)
  /-- The validator broke down. -/
  | crashed
  deriving DecidableEq, Repr

/-- A judge of certificates against a trust store. -/
abbrev Validator := Certificate → TrustStore → Verdict

/-- Why the default validator rejects a certificate. -/
inductive Rejection where
  /-- The instant lies outside of the certificate's own validity. -/
  | outsideValidity (subject : String) (notBefore notAfter : Instant)
  /-- The store holds nothing. -/
  | emptyStore (name : String)
  /-- An entry issued the certificate, but is itself outside of its validity. -/
  | issuerOutsideValidity (issuer subject : String)
  /-- No entry issued the certificate. -/
  | noIssuer (subject issuer : String)
  deriving DecidableEq, Repr

/-- The wording of a rejection. -/
def Rejection.message : Rejection → String
  | .outsideValidity s b a =>
    "certificate '" ++ s ++ "' is outside its validity period (" ++ b.spokenText ++ " - " ++
      a.spokenText ++ ")"
  | .emptyStore n => "trust store '" ++ n ++ "' is empty"
  | .issuerOutsideValidity i s =>
    "issuer '" ++ i ++ "' of certificate '" ++ s ++ "' is outside its validity period"
  | .noIssuer s i => "no trusted issuer found for certificate '" ++ s ++ "' (issuer '" ++ i ++ "')"

namespace Validation

/-- Whether an entry of a store may issue certificates. -/
def mayIssue (entry : Certificate) : Bool := entry.isAuthority || entry.isSelfIssued

/-- Look for an issuer among entries in their order; the first one within its validity settles
it. Until then the latest issuer outside of its validity is remembered. -/
def rejectionBy? (moment : Instant) (c : Certificate) (expired : Option Certificate) :
    List Certificate → Option Rejection
  | [] =>
    match expired with
    | some issuer => some (.issuerOutsideValidity issuer.subject c.subject)
    | none => some (.noIssuer c.subject c.issuer)
  | entry :: rest =>
    if !mayIssue entry || !c.isIssuedBy entry then rejectionBy? moment c expired rest
    else if entry.isValidAt moment then none
    else rejectionBy? moment c (some entry) rest

/-- Why a certificate is rejected at an instant, if it is. -/
def rejection? (moment : Instant) (c : Certificate) (store : TrustStore) : Option Rejection :=
  if !c.isValidAt moment then some (.outsideValidity c.subject c.notBefore c.notAfter)
  else if store.isEmpty then some (.emptyStore store.name)
  else if store.contains c then none
  else rejectionBy? moment c none store.certificates

/-- The default validator at an instant. -/
def validator (moment : Instant) : Validator := fun c store =>
  match rejection? moment c store with
  | none => .accepted
  | some r => .rejected r.message

end Validation

end AnchoredMetadata
