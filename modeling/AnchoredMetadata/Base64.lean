import AnchoredMetadata.Text.Hex

/-!
# Base64

The standard alphabet with required padding. Reading accepts canonical text
only: the bits that padding leaves over are zero. Each refusal says which byte
is at fault.
-/

namespace AnchoredMetadata.Base64

/-- Why a text is not base64. -/
inductive Error where
  /-- A byte outside the alphabet, or padding out of place. -/
  | invalidSymbol (byte : UInt8) (offset : Nat)
  /-- A group of a single symbol, which holds no whole byte. -/
  | invalidLength (length : Nat)
  /-- A last symbol whose unused bits are not zero. -/
  | invalidLastSymbol (byte : UInt8) (offset : Nat)
  /-- A last group without the padding it needs. -/
  | invalidPadding
  deriving DecidableEq, Repr

/-- The wording of a refusal. -/
def Error.message : Error → String
  | .invalidSymbol b n => s!"Invalid symbol {b.toNat}, offset {n}."
  | .invalidLength n => s!"Invalid input length: {n}"
  | .invalidLastSymbol b n => s!"Invalid last symbol {b.toNat}, offset {n}."
  | .invalidPadding => "Invalid padding"

/-- The padding byte `=`. -/
def pad : UInt8 := 61

/-- The value of a symbol of the alphabet. -/
def value? (b : UInt8) : Option Nat :=
  if 65 ≤ b && b ≤ 90 then some (b.toNat - 65)
  else if 97 ≤ b && b ≤ 122 then some (b.toNat - 71)
  else if 48 ≤ b && b ≤ 57 then some (b.toNat + 4)
  else if b == 43 then some 62
  else if b == 47 then some 63
  else none

/-- The symbol of a value below sixty-four. -/
def symbol (v : Nat) : UInt8 :=
  if v < 26 then UInt8.ofNat (v + 65)
  else if v < 52 then UInt8.ofNat (v + 71)
  else if v < 62 then UInt8.ofNat (v - 4)
  else if v = 62 then 43
  else 47

/-- Write three bytes as four symbols, and pad the last group. -/
def encode : List UInt8 → List UInt8
  | [] => []
  | [a] =>
    let n := a.toNat
    [symbol (n / 4), symbol (n % 4 * 16), pad, pad]
  | [a, b] =>
    let m := a.toNat
    let n := b.toNat
    [symbol (m / 4), symbol (m % 4 * 16 + n / 16), symbol (n % 16 * 4), pad]
  | a :: b :: c :: rest =>
    let m := a.toNat
    let n := b.toNat
    let o := c.toNat
    symbol (m / 4) :: symbol (m % 4 * 16 + n / 16) :: symbol (n % 16 * 4 + o / 64) ::
      symbol (o % 64) :: encode rest

/-- The value of the symbol at an offset, which must be of the alphabet. -/
def symbolAt (b : UInt8) (offset : Nat) : Except Error Nat :=
  match value? b with
  | some v => .ok v
  | none => .error (.invalidSymbol b offset)

/-- Read a group of four symbols that is not the last. -/
def decodeGroup (a b c d : UInt8) (offset : Nat) : Except Error (List UInt8) := do
  let p ← symbolAt a offset
  let q ← symbolAt b (offset + 1)
  let r ← symbolAt c (offset + 2)
  let s ← symbolAt d (offset + 3)
  return [UInt8.ofNat (p * 4 + q / 16), UInt8.ofNat (q % 16 * 16 + r / 4),
    UInt8.ofNat (r % 4 * 64 + s)]

/-- Split the last group into its symbols, with their values, and its padding count.
Padding may stand only after two symbols, and no symbol after padding. -/
def splitLast (offset : Nat) :
    (index : Nat) → (symbols : List (UInt8 × Nat)) → (padding : Nat) → List UInt8 →
      Except Error (List (UInt8 × Nat) × Nat)
  | _, symbols, padding, [] => .ok (symbols, padding)
  | index, symbols, padding, b :: rest =>
    if b == pad then
      if index < 2 then .error (.invalidSymbol b (offset + index))
      else splitLast offset (index + 1) symbols (padding + 1) rest
    else if 0 < padding then .error (.invalidSymbol pad (offset + index - padding))
    else do
      let v ← symbolAt b (offset + index)
      splitLast offset (index + 1) (symbols ++ [(b, v)]) padding rest

/-- Read the last group, of at most four bytes. -/
def decodeLast (group : List UInt8) (offset : Nat) : Except Error (List UInt8) := do
  let (symbols, padding) ← splitLast offset 0 [] 0 group
  match symbols with
  | [] => if group.isEmpty then return [] else throw (.invalidLength offset)
  | [_] => throw (.invalidLength (offset + 1))
  | [(_, p), (last, q)] =>
    if padding ≠ 2 then throw .invalidPadding
    else if q % 16 ≠ 0 then throw (.invalidLastSymbol last (offset + 1))
    else return [UInt8.ofNat (p * 4 + q / 16)]
  | [(_, p), (_, q), (last, r)] =>
    if padding ≠ 1 then throw .invalidPadding
    else if r % 4 ≠ 0 then throw (.invalidLastSymbol last (offset + 2))
    else return [UInt8.ofNat (p * 4 + q / 16), UInt8.ofNat (q % 16 * 16 + r / 4)]
  | (_, p) :: (_, q) :: (_, r) :: (_, s) :: _ =>
    return [UInt8.ofNat (p * 4 + q / 16), UInt8.ofNat (q % 16 * 16 + r / 4),
      UInt8.ofNat (r % 4 * 64 + s)]

/-- Read the groups from an offset; only the last may hold padding. -/
def decodeFrom (offset : Nat) : List UInt8 → Except Error (List UInt8)
  | a :: b :: c :: d :: e :: rest => do
    let head ← decodeGroup a b c d offset
    let tail ← decodeFrom (offset + 4) (e :: rest)
    return head ++ tail
  | group => decodeLast group offset

/-- Read a text. When one byte is left over after the groups of four, a byte outside the
alphabet there is reported before anything else. -/
def decode (text : List UInt8) : Except Error (List UInt8) :=
  match text.length % 4, text.getLast? with
  | 1, some last =>
    if last ≠ pad ∧ value? last = none then .error (.invalidSymbol last (text.length - 1))
    else decodeFrom 0 text
  | _, _ => decodeFrom 0 text

/-- The text of some bytes as a string. -/
def encodeString (bytes : List UInt8) : String :=
  String.ofList ((encode bytes).map fun b => Char.ofNat b.toNat)

/-- Read padded groups one after another: padding ends a group, not the text. Each group
must be canonical. -/
def decodeConcatenated? : List UInt8 → Option (List UInt8)
  | [] => some []
  | a :: b :: c :: d :: rest =>
    match decodeLast [a, b, c, d] 0, decodeConcatenated? rest with
    | .ok head, some tail => some (head ++ tail)
    | _, _ => none
  | _ => none

end AnchoredMetadata.Base64
