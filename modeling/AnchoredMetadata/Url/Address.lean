import AnchoredMetadata.Text.Hex

/-!
# Network addresses

Addresses of version 4 are up to four numbers with dots between them, decimal,
octal after a zero or hexadecimal after `0x`; the last number fills the bytes
that are left. Addresses of version 6 are eight pieces of sixteen bits, of which
one run of zeros may be written as two colons, and the last two as an address of
version 4.
-/

namespace AnchoredMetadata.Url

/-! ## Version 4 -/

/-- The value of digits in a base, if all of them are. -/
def digitsValue? (base : Nat) (cs : List Char) : Option Nat :=
  cs.foldl (fun n c => do
    let d ← Text.hexValue? c
    if d < base then return (← n) * base + d else none) (some 0)

/-- A number of an address of version 4. -/
def ipv4Number? : List Char → Option Nat
  | [] => none
  | '0' :: 'x' :: digits => digitsValue? 16 digits
  | '0' :: 'X' :: digits => digitsValue? 16 digits
  | '0' :: c :: digits => digitsValue? 8 (c :: digits)
  | digits => digitsValue? 10 digits

/-- The parts of a name between its dots. -/
def labels : List Char → List (List Char)
  | [] => [[]]
  | c :: rest =>
    match c, labels rest with
    | '.', parts => [] :: parts
    | c, part :: parts => (c :: part) :: parts
    | c, [] => [[c]]

/-- The parts of a name; a dot at the end opens none. -/
def addressParts (name : List Char) : List (List Char) :=
  let parts := labels name
  if parts.getLast? = some [] then parts.dropLast else parts

/-- Whether a name has to be an address of version 4: its last part is a number. -/
def endsInNumber (name : List Char) : Bool :=
  match (addressParts name).getLast? with
  | none => false
  | some part =>
    (!part.isEmpty && part.all fun c => '0' ≤ c && c ≤ '9') || (ipv4Number? part).isSome

/-- The number that bytes and a last number make, if they fit. -/
def ipv4OfNumbers? (numbers : List Nat) : Option Nat := do
  let last ← numbers.getLast?
  let bytes := numbers.dropLast
  if 3 < bytes.length || bytes.any (255 < ·) then none
  else if Nat.pow 256 (4 - bytes.length) ≤ last then none
  else return bytes.foldl (fun n b => n * 256 + b) 0 * Nat.pow 256 (4 - bytes.length) + last

/-- The address of version 4 that a name is. -/
def ipv4? (name : List Char) : Option Nat := do
  ipv4OfNumbers? (← (addressParts name).mapM ipv4Number?)

/-- An address of version 4 as four decimal numbers. -/
def ipv4Text (n : Nat) : List Char :=
  let part (i : Nat) : List Char := Nat.toDigits 10 (n / Nat.pow 256 i % 256)
  part 3 ++ '.' :: part 2 ++ '.' :: part 1 ++ '.' :: part 0

/-! ## Version 6 -/

/-- A decimal number of a byte without leading zeros, and what follows it. -/
def byteNumber? (cs : List Char) : Option (Nat × List Char) :=
  let digits := cs.takeWhile fun c => '0' ≤ c && c ≤ '9'
  match digitsValue? 10 digits with
  | some n =>
    if digits.isEmpty || 255 < n || (1 < digits.length && digits.head? = some '0') then none
    else some (n, cs.dropWhile fun c => '0' ≤ c && c ≤ '9')
  | none => none

/-- The two pieces that an address of version 4 at the end makes. -/
def ipv4Pieces? (cs : List Char) : Option (List Nat) := do
  let (a, rest) ← byteNumber? cs
  let '.' :: rest := rest | none
  let (b, rest) ← byteNumber? rest
  let '.' :: rest := rest | none
  let (c, rest) ← byteNumber? rest
  let '.' :: rest := rest | none
  let (d, rest) ← byteNumber? rest
  if rest.isEmpty then return [a * 256 + b, c * 256 + d] else none

/-- Up to `count` hexadecimal digits at the front, and what follows them. -/
def hexRun : (count : Nat) → List Char → List Char × List Char
  | 0, cs => ([], cs)
  | _, [] => ([], [])
  | count + 1, c :: rest =>
    if (Text.hexValue? c).isSome then
      let (digits, rest) := hexRun count rest
      (c :: digits, rest)
    else ([], c :: rest)

/-- Read pieces up to the end. The result holds the pieces before the two colons, or all if
there are none, and those after them. -/
def ipv6Pieces? : (fuel : Nat) → (before : List Nat) → (after : Option (List Nat)) →
    List Char → Option (List Nat × Option (List Nat))
  | 0, _, _, _ => none
  | _, before, after, [] => some (before, after)
  | fuel + 1, before, after, c :: cs =>
    let count := before.length + (after.elim 0 fun l => l.length + 1)
    let add (more : List Nat) : List Nat × Option (List Nat) :=
      match after with
      | none => (before ++ more, none)
      | some l => (before, some (l ++ more))
    if 8 ≤ count then none
    else if c = ':' then
      if after.isSome then none else ipv6Pieces? fuel before (some []) cs
    else
      let (digits, rest) := hexRun 4 (c :: cs)
      let value := (digitsValue? 16 digits).getD 0
      match rest with
      | [] => some (add [value])
      | '.' :: _ =>
        if digits.isEmpty || 6 < count then none else (ipv4Pieces? (c :: cs)).map add
      | ':' :: rest =>
        if rest.isEmpty then none
        else
          let (before, after) := add [value]
          ipv6Pieces? fuel before after rest
      | _ => none

/-- Read two colons at the start, if they are there. The result holds no pieces after them yet, and
what follows. -/
def ipv6Start? : List Char → Option (Option (List Nat) × List Char)
  | ':' :: ':' :: rest => some (some [], rest)
  | ':' :: _ => none
  | [] => none
  | [_] => none
  | cs => some (none, cs)

/-- The eight pieces that were read. Two colons stand for at least one zero. -/
def ipv6Filled? : List Nat × Option (List Nat) → Option (List Nat)
  | (before, none) => if before.length = 8 then some before else none
  | (before, some later) =>
    if before.length + later.length < 8 then
      some (before ++ List.replicate (8 - before.length - later.length) 0 ++ later)
    else none

/-- The eight pieces of an address of version 6. -/
def ipv6? (cs : List Char) : Option (List Nat) := do
  let (after, rest) ← ipv6Start? cs
  ipv6Filled? (← ipv6Pieces? (cs.length + 1) [] after rest)

/-- The longest run of zeros in some pieces, the first of several: its place and its length. -/
def longestZeros (pieces : List Nat) : Nat × Nat :=
  let runs := (List.range pieces.length).map fun i =>
    (i, ((pieces.drop i).takeWhile (· = 0)).length)
  runs.foldl (fun best run => if best.2 < run.2 then run else best) (0, 0)

/-- Pieces with colons between them. -/
def piecesText (pieces : List Nat) : List Char :=
  [':'].intercalate (pieces.map (Nat.toDigits 16))

/-- An address of version 6 with its longest run of two or more zeros as two colons. -/
def ipv6Text (pieces : List Nat) : List Char :=
  let (start, length) := longestZeros pieces
  if length < 2 then piecesText pieces
  else piecesText (pieces.take start) ++ ':' :: ':' :: piecesText (pieces.drop (start + length))

end AnchoredMetadata.Url
