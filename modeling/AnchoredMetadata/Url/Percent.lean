import AnchoredMetadata.Text.Hex
import AnchoredMetadata.Text.Utf8

/-!
# Percent-encoding

Bytes as printable ASCII: a byte that may not stand for itself is written as a
percent sign and two upper-case hexadecimal digits. Form encoding is the
variant for form values, which writes a space as a plus sign.
-/

namespace AnchoredMetadata.Url

/-- A byte as a percent sign and two digits. -/
def percentByte (b : UInt8) : List Char :=
  ['%', Text.hexDigitUpper (b.toNat / 16), Text.hexDigitUpper (b.toNat % 16)]

/-- The ASCII character of a byte. -/
def asciiChar (b : UInt8) : Char := Char.ofNat b.toNat

/-- Whether a byte has a picture: it is ASCII, and no control character. -/
def isVisible (b : UInt8) : Bool := 0x20 ≤ b && b < 0x7F

/-- Encode a text. Characters of `reserved` are encoded, and so is every byte without a
picture. -/
def percentEncode (reserved : List Char) (cs : List Char) : List Char :=
  (Text.utf8Encode cs).flatMap fun b =>
    if isVisible b && !reserved.contains (asciiChar b) then [asciiChar b] else percentByte b

/-- The value of the byte in a pair of digits. -/
def pairValue? (a b : UInt8) : Option UInt8 := do
  let high ← Text.hexValue? (asciiChar a)
  let low ← Text.hexValue? (asciiChar b)
  return UInt8.ofNat (high * 16 + low)

/-- Resolve percent signs; one without two digits after it stands for itself. -/
def percentDecode : List UInt8 → List UInt8
  | 37 :: a :: b :: rest =>
    match pairValue? a b with
    | some x => x :: percentDecode rest
    | none => 37 :: percentDecode (a :: b :: rest)
  | b :: rest => b :: percentDecode rest
  | [] => []

/-! ## Form values -/

/-- Whether a byte stands for itself in a form value. -/
def isFormByte (b : UInt8) : Bool :=
  (48 ≤ b && b ≤ 57) || (65 ≤ b && b ≤ 90) || (97 ≤ b && b ≤ 122) ||
    b = 42 || b = 45 || b = 46 || b = 95

/-- A byte in a form value. -/
def formByte (b : UInt8) : List Char :=
  if isFormByte b then [asciiChar b] else if b = 32 then ['+'] else percentByte b

/-- Encode bytes as a form value. -/
def formEncode (bytes : List UInt8) : List Char := bytes.flatMap formByte

/-- Decode a form value, unless a percent sign has no two digits after it or a character is not
ASCII. -/
def formDecode? : List Char → Option (List UInt8)
  | [] => some []
  | '+' :: rest => (formDecode? rest).map (32 :: ·)
  | '%' :: a :: b :: rest => do
    let high ← Text.hexValue? a
    let low ← Text.hexValue? b
    return UInt8.ofNat (high * 16 + low) :: (← formDecode? rest)
  | c :: rest =>
    if c = '%' || 128 ≤ c.toNat then none else (formDecode? rest).map (UInt8.ofNat c.toNat :: ·)

@[simp] theorem formEncode_append (a b : List UInt8) :
    formEncode (a ++ b) = formEncode a ++ formEncode b := by
  simp [formEncode]

end AnchoredMetadata.Url
