import AnchoredMetadata.Url.Host

/-!
# Locations

A URL has a scheme, mostly an authority, a path and perhaps a query and a
fragment. Reading follows the rules that browsers agree on: space at the ends
is dropped, tabs and line breaks everywhere, letters of scheme and host become
lower case, dots in paths are resolved, and characters that may not stand for
themselves are percent-encoded. Reading what is written gives the same URL.
-/

namespace AnchoredMetadata

open Url

/-- Where a scheme's resources live. -/
structure Url.Authority where
  /-- The user, percent-encoded. -/
  user : List Char
  /-- The password, percent-encoded. -/
  password : List Char
  /-- The host. -/
  host : Url.Host
  /-- The port, unless it is the scheme's own. -/
  port : Option Nat
  deriving DecidableEq, Repr

/-- A path. -/
inductive Url.Path where
  /-- Segments, each after a slash. -/
  | segments (parts : List (List Char))
  /-- A text without structure. -/
  | opaqueText (text : List Char)
  deriving DecidableEq, Repr

/-- A URL. -/
structure Url where
  /-- The scheme in lower case. -/
  scheme : List Char
  /-- The authority, if there is one. -/
  authority : Option Url.Authority
  /-- The path. -/
  path : Url.Path
  /-- The text after the question mark. -/
  query : Option (List Char)
  /-- The text after the number sign. -/
  fragment : Option (List Char)
  deriving DecidableEq, Repr

namespace Url

/-! ## Writing -/

/-- User and password before a host. -/
def Authority.credentialsText (a : Authority) : List Char :=
  if a.user.isEmpty && a.password.isEmpty then []
  else if a.password.isEmpty then a.user ++ ['@']
  else a.user ++ ':' :: a.password ++ ['@']

/-- A port after a host. -/
def portText : Option Nat → List Char
  | none => []
  | some n => ':' :: Nat.toDigits 10 n

/-- An authority with its slashes. -/
def Authority.text (a : Authority) : List Char :=
  '/' :: '/' :: a.credentialsText ++ a.host.text ++ portText a.port

/-- A path. -/
def Path.text : Path → List Char
  | .segments parts => parts.flatMap fun part => '/' :: part
  | .opaqueText t => t

/-- A path where there is no authority: it must not look like one. -/
def Path.textAlone : Path → List Char
  | .segments ([] :: part :: parts) => '/' :: '.' :: (Path.segments ([] :: part :: parts)).text
  | p => p.text

/-- A part after its sign. -/
def partText (sign : Char) : Option (List Char) → List Char
  | none => []
  | some t => sign :: t

/-- The characters of a URL. -/
def characters (u : Url) : List Char :=
  u.scheme ++ ':' ::
    (match u.authority with
      | some a => a.text ++ u.path.text
      | none => u.path.textAlone) ++
    partText '?' u.query ++ partText '#' u.fragment

/-- A URL as text. -/
def text (u : Url) : String := String.ofList u.characters

/-- What is sent when a URL is fetched: all but the fragment. -/
def withoutFragment (u : Url) : Url := { u with fragment := none }

/-! ## Characters that are encoded -/

/-- Encoded in fragments. -/
def reservedInFragment : List Char := [' ', '"', '<', '>', '\x60']

/-- Encoded in paths. -/
def reservedInPath : List Char := reservedInFragment ++ ['#', '?', '\x7b', '\x7d']

/-- Encoded in users and passwords. -/
def reservedInUser : List Char :=
  reservedInPath ++ ['/', ':', ';', '=', '@', '[', '\\', ']', '^', '|']

/-- Encoded in queries; where backslashes count as slashes, apostrophes too. -/
def reservedInQuery (kind : SchemeKind) : List Char :=
  [' ', '"', '#', '<', '>'] ++ (if kind.isSpecial then ['\x27'] else [])

/-! ## Reading -/

/-- Whether a character ends the authority. -/
def endsAuthority (kind : SchemeKind) (c : Char) : Bool :=
  c = '/' || c = '?' || c = '#' || (kind.isSpecial && c = '\\')

/-- What stands before and after the last of some characters that satisfies a test. -/
def splitLast (p : Char → Bool) (cs : List Char) : Option (List Char × List Char) :=
  let after := (cs.reverse.takeWhile fun c => !p c).reverse
  if after.length < cs.length then some (cs.take (cs.length - after.length - 1), after) else none

/-- Read user and password. -/
def readCredentials (cs : List Char) : List Char × List Char :=
  let user := cs.takeWhile (· ≠ ':')
  (percentEncode reservedInUser user,
    percentEncode reservedInUser (cs.drop (user.length + 1)))

/-- What stands before and after the colon of a port; colons in brackets do not count. -/
def splitPort : (inBrackets : Bool) → List Char → List Char × Option (List Char)
  | _, [] => ([], none)
  | inBrackets, c :: rest =>
    if c = ':' && !inBrackets then ([], some rest)
    else
      let inside := if c = '[' then true else if c = ']' then false else inBrackets
      let (host, port) := splitPort inside rest
      (c :: host, port)

/-- Read the digits of a port; an empty one and the scheme's own are dropped. -/
def readPort (scheme cs : List Char) : Except Error (Option Nat) :=
  if cs.any fun c => c < '0' || '9' < c then .error .badPort
  else
    match digitsValue? 10 cs with
    | none => .error .badPort
    | some n =>
      if 65535 < n then .error .badPort
      else if cs.isEmpty || defaultPort scheme = some n then .ok none
      else .ok (some n)

/-- Read host and port. What follows a backslash in the port belongs to the path. -/
def readServer (kind : SchemeKind) (scheme cs : List Char) :
    Except Error (Host × Option Nat × List Char) := do
  let (hostText, afterColon) := splitPort false cs
  let host ← readHost kind hostText
  match afterColon with
  | none => return (host, none, [])
  | some rest =>
    if host.isEmpty then throw .emptyHost
    let digits := rest.takeWhile (· ≠ '\\')
    return (host, ← readPort scheme digits, rest.drop digits.length)

/-- Read the authority of a URL that is no file, and give what is left of its text. -/
def readAuthority (kind : SchemeKind) (scheme cs : List Char) :
    Except Error (Authority × List Char) := do
  match splitLast (· = '@') cs with
  | none =>
    let (host, port, rest) ← readServer kind scheme cs
    return (⟨[], [], host, port⟩, rest)
  | some (before, server) =>
    let (user, password) := readCredentials before
    let (host, port, rest) ← readServer kind scheme server
    if host.isEmpty && !(user.isEmpty && password.isEmpty) then throw .emptyHost
    return (⟨user, password, host, port⟩, rest)

/-- The parts of a path between its slashes. -/
def splitPath (kind : SchemeKind) : List Char → List (List Char)
  | [] => [[]]
  | c :: rest =>
    if c = '/' || (kind.isSpecial && c = '\\') then [] :: splitPath kind rest
    else
      match splitPath kind rest with
      | part :: parts => (c :: part) :: parts
      | [] => [[c]]

/-- Whether a segment stands for the segment itself. -/
def isSingleDot (part : List Char) : Bool :=
  ["." , "%2e", "%2E"].any fun s => s.toList = part

/-- Whether a segment stands for the segment above. -/
def isDoubleDot (part : List Char) : Bool :=
  ["..", ".%2e", ".%2E", "%2e.", "%2E.", "%2e%2e", "%2e%2E", "%2E%2e", "%2E%2E"].any
    fun s => s.toList = part

/-- Whether a segment names a drive: a letter and a colon or a bar. -/
def isDrive : List Char → Bool
  | [letter, mark] => letter.isAlpha && (mark = ':' || mark = '|')
  | _ => false

/-- Go to the segment above; a drive is not left. The segments are in reverse. -/
def leaveSegment : List (List Char) → List (List Char)
  | [] => []
  | part :: above => if isDrive part then part :: above else above

/-- Put encoded segments after others, with dots resolved. The segments so far are in reverse,
and so is the result. A path that ends in dots ends in a slash. -/
def resolveDots : List (List Char) → List (List Char) → List (List Char)
  | done, [] => done
  | done, part :: rest =>
    let next :=
      if isDoubleDot part then
        if rest.isEmpty then [] :: leaveSegment done else leaveSegment done
      else if isSingleDot part then
        if rest.isEmpty then [] :: done else done
      else part :: done
    resolveDots next rest

/-- Read a path after its first slash. -/
def readSegments (kind : SchemeKind) (cs : List Char) : List (List Char) :=
  (resolveDots [] ((splitPath kind cs).map (percentEncode reservedInPath))).reverse

/-- Drop a slash at the front. -/
def dropSlash (kind : SchemeKind) : List Char → List Char
  | [] => []
  | c :: rest => if c = '/' || (kind.isSpecial && c = '\\') then rest else c :: rest

/-- Read the path after an authority. Only the web's schemes and files always have one. -/
def readPath (kind : SchemeKind) (cs : List Char) : Path :=
  if cs.isEmpty && !kind.isSpecial then .segments []
  else .segments (readSegments kind (dropSlash kind cs))

/-- What stands before a question mark or number sign. -/
def beforeQuery (cs : List Char) : List Char := cs.takeWhile fun c => c ≠ '?' && c ≠ '#'

/-- Read the fragment in what follows a path. -/
def readFragment (cs : List Char) : Option (List Char) :=
  match cs.dropWhile (· ≠ '#') with
  | [] => none
  | _ :: rest => some (percentEncode reservedInFragment rest)

/-- Read the query in what follows a path. -/
def readQuery (kind : SchemeKind) (cs : List Char) : Option (List Char) :=
  match cs with
  | '?' :: rest => some (percentEncode (reservedInQuery kind) (rest.takeWhile (· ≠ '#')))
  | _ => none

/-- A URL with the query and fragment that follow its path. -/
def withTail (kind : SchemeKind) (scheme : List Char) (authority : Option Authority) (path : Path)
    (tail : List Char) : Url :=
  ⟨scheme, authority, path, readQuery kind tail, readFragment tail⟩

/-- Read what follows the slashes of a URL with an authority. -/
def readAfterSlashes (kind : SchemeKind) (scheme cs : List Char) : Except Error Url := do
  let head := cs.takeWhile fun c => !endsAuthority kind c
  let rest := cs.drop head.length
  if head = ['@'] && !rest.isEmpty then throw .emptyHost
  let (authority, left) ← readAuthority kind scheme head
  let tail := left ++ rest
  let pathText := beforeQuery tail
  return withTail kind scheme (some authority) (readPath kind pathText)
    (tail.drop pathText.length)

/-- The segments of a file's path: a drive at the front has a colon, and no empty segments come
before others. -/
def fileSegments (parts : List (List Char)) : List (List Char) :=
  match parts with
  | [letter, mark] :: rest =>
    if isDrive [letter, mark] then [letter, ':'] :: rest else parts
  | _ =>
    match parts.dropWhile List.isEmpty with
    | [] => [[]]
    | kept => kept

/-- Read what follows the scheme of a file. -/
def readFile (scheme cs : List Char) : Except Error Url := do
  let isSlash (c : Char) : Bool := c = '/' || c = '\\'
  let (hostText, rest) := match cs with
    | a :: b :: more =>
      if isSlash a && isSlash b then
        let head := more.takeWhile fun c => !endsAuthority .file c
        if isDrive head then ([], more) else (head, more.drop head.length)
      else ([], cs)
    | _ => ([], cs)
  let host ← readHost .file hostText
  let pathText := beforeQuery rest
  let parts := readSegments .file (dropSlash .file pathText)
  let host := if isDrive (parts.headD []) then .name [] else host
  return withTail .file scheme (some ⟨[], [], host, none⟩) (.segments (fileSegments parts))
    (rest.drop pathText.length)

/-- Read what follows the scheme of a URL of another kind. -/
def readOther (scheme cs : List Char) : Except Error Url :=
  match cs with
  | '/' :: '/' :: rest => readAfterSlashes .other scheme rest
  | _ =>
    let pathText := beforeQuery cs
    let path := match pathText with
      | '/' :: rest => Path.segments (readSegments .other rest)
      | _ => .opaqueText (percentEncode [] pathText)
    .ok (withTail .other scheme none path (cs.drop pathText.length))

/-- Drop space and control characters at both ends, and tabs and line breaks everywhere. -/
def cleaned (cs : List Char) : List Char :=
  let isSpace (c : Char) : Bool := c.toNat ≤ 0x20
  let ends := ((cs.dropWhile isSpace).reverse.dropWhile isSpace).reverse
  ends.filter fun c => c ≠ '\t' && c ≠ '\n' && c ≠ '\r'

/-- Whether a character may stand in a scheme. -/
def isSchemeChar (c : Char) : Bool := c.isAlphanum || c = '+' || c = '-' || c = '.'

/-- Read the characters of a URL. -/
def readCharacters (input : List Char) : Except Error Url :=
  let cs := cleaned input
  let word := cs.takeWhile isSchemeChar
  match cs.drop word.length with
  | ':' :: rest =>
    if (word.head?.map Char.isAlpha).getD false then
      let scheme := word.map Char.toLower
      match schemeKind scheme with
      | .file => readFile scheme rest
      | .web => readAfterSlashes .web scheme (rest.dropWhile fun c => c = '/' || c = '\\')
      | .other => readOther scheme rest
    else .error .noScheme
  | _ => .error .noScheme

/-- Read a URL. -/
def ofText (text : String) : Except Error Url := readCharacters text.toList

end Url

end AnchoredMetadata
