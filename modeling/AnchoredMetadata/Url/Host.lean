import AnchoredMetadata.Url.Address
import AnchoredMetadata.Url.Domain
import AnchoredMetadata.Url.Percent

/-!
# Hosts

A host is an address of either version or a name. For the schemes of the web a
name is a domain name, in lower case and in ASCII, and one whose last part is a
number has to be an address. For other schemes a name is any text without a few
forbidden characters, and may be empty.
-/

namespace AnchoredMetadata.Url

/-- Why a text is no URL. -/
inductive Error where
  /-- There is no scheme. -/
  | noScheme
  /-- There is no host where one must be. -/
  | emptyHost
  /-- The port is no number of sixteen bits. -/
  | badPort
  /-- The host is no domain name. -/
  | badDomain
  /-- The host ends in a number and is no address of version 4. -/
  | badIpv4
  /-- The host is in brackets and no address of version 6. -/
  | badIpv6
  /-- The host has a forbidden character. -/
  | badHostCharacter
  deriving DecidableEq, Repr

/-- The wording of a refusal. -/
def Error.message : Error → String
  | .noScheme => "relative URL without a base"
  | .emptyHost => "empty host"
  | .badPort => "invalid port number"
  | .badDomain => "invalid international domain name"
  | .badIpv4 => "invalid IPv4 address"
  | .badIpv6 => "invalid IPv6 address"
  | .badHostCharacter => "invalid domain character"

/-- What a scheme says of the rest. -/
inductive SchemeKind where
  /-- Files. -/
  | file
  /-- Resources behind a host: the schemes of the web. -/
  | web
  /-- Anything else. -/
  | other
  deriving DecidableEq, Repr

/-- The kind of a scheme in lower case. -/
def schemeKind (scheme : List Char) : SchemeKind :=
  if scheme = "file".toList then .file
  else if ["http".toList, "https".toList, "ws".toList, "wss".toList, "ftp".toList].contains scheme
  then .web
  else .other

/-- Whether backslashes count as slashes. -/
def SchemeKind.isSpecial : SchemeKind → Bool
  | .other => false
  | _ => true

/-- The port that a scheme takes by itself. -/
def defaultPort (scheme : List Char) : Option Nat :=
  if scheme = "http".toList || scheme = "ws".toList then some 80
  else if scheme = "https".toList || scheme = "wss".toList then some 443
  else if scheme = "ftp".toList then some 21
  else none

/-- A host. -/
inductive Host where
  /-- A name. -/
  | name (text : List Char)
  /-- An address of version 4. -/
  | ipv4 (value : Nat)
  /-- An address of version 6. -/
  | ipv6 (pieces : List Nat)
  deriving DecidableEq, Repr

/-- A host in a URL. -/
def Host.text : Host → List Char
  | .name t => t
  | .ipv4 n => ipv4Text n
  | .ipv6 ps => '[' :: ipv6Text ps ++ [']']

/-- Whether a host is the empty name. -/
def Host.isEmpty (h : Host) : Bool := h = .name []

/-- Read an address in brackets after the opening one. -/
def bracketedHost (cs : List Char) : Except Error Host :=
  if cs.getLast? ≠ some ']' then .error .badIpv6
  else
    match ipv6? cs.dropLast with
    | some ps => .ok (.ipv6 ps)
    | none => .error .badIpv6

/-- Read a host that is a domain name or an address. -/
def domainHost (cs : List Char) : Except Error Host :=
  match cs with
  | '[' :: rest => bracketedHost rest
  | _ =>
    match domain? (percentDecode (Text.utf8Encode cs)) with
    | none => .error .badDomain
    | some [] => .error .emptyHost
    | some name =>
      if endsInNumber name then
        match ipv4? name with
        | some n => .ok (.ipv4 n)
        | none => .error .badIpv4
      else .ok (.name name)

/-- Characters that no host holds. -/
def forbiddenInHost : List Char :=
  ['\x00', '\t', '\n', '\r', ' ', '#', '/', ':', '<', '>', '?', '@', '[', '\\', ']', '^', '|']

/-- Read a host whose name can be any text. -/
def opaqueHost (cs : List Char) : Except Error Host :=
  match cs with
  | '[' :: rest => bracketedHost rest
  | _ =>
    if cs.any forbiddenInHost.contains then .error .badHostCharacter
    else .ok (.name (percentEncode [] cs))

/-- Read a host as a scheme asks for; where it may be empty is decided elsewhere. -/
def readHost (kind : SchemeKind) (cs : List Char) : Except Error Host :=
  match kind with
  | .other => opaqueHost cs
  | .web => if cs.isEmpty then .error .emptyHost else domainHost cs
  | .file =>
    if cs.isEmpty then .ok (.name [])
    else
      (domainHost cs).map fun h => if h = .name "localhost".toList then .name [] else h

end AnchoredMetadata.Url
