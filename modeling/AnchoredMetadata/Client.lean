import AnchoredMetadata.Certificate.Strict
import AnchoredMetadata.Resolver.Settings

/-!
# Clients

A resolver fetches with a client of its own, which trusts the certificates of
the resolver's store as roots and names its environment in every request.
-/

namespace AnchoredMetadata

/-- Why there is no client. -/
inductive ClientError where
  /-- A certificate of the store cannot be a root. -/
  | unusableRoot
  /-- The name of the environment cannot stand in a request. -/
  | badEnvironment
  deriving DecidableEq, Repr

/-- The wording of a refusal. -/
def ClientError.message : ClientError → String
  | .unusableRoot => "unusable trust store certificate: builder error"
  | .badEnvironment => "builder error"

/-- A client. -/
structure Client where
  /-- The name sent with requests. -/
  agent : String
  /-- The certificates trusted besides the common ones. -/
  roots : List Certificate

namespace Client

/-- The name of a client in an environment. -/
def agentName (environment : String) : String := environment ++ "-metadata-client/0.1.0"

/-- Whether a name can stand in a request: it has no control character but tabs. -/
def isSendable (name : String) : Bool :=
  name.toList.all fun c => c = '\t' || (32 ≤ c.toNat && c.toNat ≠ 127)

/-- The client for a resolver. A root that cannot be used is reported first. -/
def forResolver (environment : String) (settings : ResolverSettings) :
    Except ClientError Client :=
  let roots := settings.store.certificates
  if roots.any fun c => !Certificate.Strict.isStrict c.encoding then .error .unusableRoot
  else if !isSendable environment then .error .badEnvironment
  else .ok ⟨agentName environment, roots⟩

end Client

end AnchoredMetadata
