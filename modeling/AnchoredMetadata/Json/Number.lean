import AnchoredMetadata.Decimal.Shortest
import AnchoredMetadata.Json.Reader

/-!
# Numbers

No field of the documents is a number, so a number is read only to name it in
a report: as a whole number of 64 bits if it has no fraction and fits, else
as a double.
-/

namespace AnchoredMetadata.Json

/-- One past the largest unsigned number of 64 bits. -/
def wordLimit : Nat := 18446744073709551616

/-- The value of a decimal digit. -/
def digitValue (b : UInt8) : Nat := b.toNat - 48

/-- Gather digits while the number fits in 64 bits. Give the number, how many digits were
gathered, and what follows. -/
def gatherDigits : Nat → List UInt8 → Nat × Nat × List UInt8
  | n, [] => (n, 0, [])
  | n, b :: rest =>
    if isDigit b && n * 10 + digitValue b < wordLimit then
      let (m, count, rest) := gatherDigits (n * 10 + digitValue b) rest
      (m, count + 1, rest)
    else (n, 0, b :: rest)

/-- A significand times a power of ten as a double, unless it is too large. The power is
applied in one step, or for very small numbers in several. -/
def scale (significand : Float) (exponent : Int) : (fuel : Nat) → Option Float
  | 0 => some 0
  | fuel + 1 =>
    if exponent.natAbs ≤ 308 then
      let power := Float.ofScientific 1 false exponent.natAbs
      if 0 ≤ exponent then
        let product := significand * power
        if product.isInf then none else some product
      else some (significand / power)
    else if significand == 0 then some significand
    else if 0 ≤ exponent then none
    else scale (significand / Float.ofScientific 1 false 308) (exponent + 308) fuel

/-- A number with a fraction or an exponent, or one of more than 64 bits. -/
def float (negative : Bool) (significand : Nat) (exponent : Int) : Except Fault Found :=
  match scale (Float.ofNat significand) exponent 8 with
  | none => .error .numberOutOfRange
  | some f =>
    .ok (.float (Decimal.textOfBits ((if negative then -f else f).toBits.toNat)))

/-- The largest exponent that is read as a number. -/
def exponentLimit : Nat := 2147483648

/-- Read an exponent after its letter, and the number it belongs to. -/
def readExponent (negative : Bool) (significand : Nat) (start : Int) : Reader Found := fun bytes =>
  let (below, unsigned) := match bytes with
    | 43 :: rest => (false, rest)
    | 45 :: rest => (true, rest)
    | _ => (false, bytes)
  match unsigned with
  | [] => .error .endInValue
  | b :: more => do
    if !isDigit b then throw .invalidNumber
    let digits := (b :: more).takeWhile isDigit
    let rest := more.dropWhile isDigit
    let size := digits.foldl (fun n d => n * 10 + digitValue d) 0
    if exponentLimit ≤ size then
      if significand ≠ 0 && !below then throw .numberOutOfRange
      else return (.float (if negative then "-0.0" else "0.0"), rest)
    else
      let found ← float negative significand (if below then start - size else start + size)
      return (found, rest)

/-- Read an exponent, if there is one, and the number before it. -/
def readMagnitude (negative : Bool) (significand : Nat) (start : Int) : Reader Found
  | 101 :: rest => readExponent negative significand start rest
  | 69 :: rest => readExponent negative significand start rest
  | rest => (float negative significand start).map (·, rest)

/-- Read a fraction after its point, and the number it belongs to. Digits beyond 64 bits are
dropped. -/
def readFraction (negative : Bool) (significand : Nat) (start : Int) : Reader Found := fun bytes =>
  let (n, count, rest) := gatherDigits significand bytes
  match bytes with
  | [] => .error .endInValue
  | b :: _ =>
    if isDigit b then readMagnitude negative n (start - count) (rest.dropWhile isDigit)
    else .error .invalidNumber

/-- Take off a number without its sign. -/
def readNumber (negative : Bool) (bytes : List UInt8) : Except Fault (Found × List UInt8) :=
  match bytes with
  | [] => .error .endInValue
  | b :: more =>
    if !isDigit b then .error .invalidNumber
    else if b = 48 && (match more with | c :: _ => isDigit c | [] => false) then
      .error .invalidNumber
    else
      let (n, _, rest) := gatherDigits 0 bytes
      let beyond := (rest.takeWhile isDigit).length
      let rest := rest.dropWhile isDigit
      match rest with
      | 46 :: fraction => readFraction negative n beyond fraction
      | 101 :: exponent => readExponent negative n beyond exponent
      | 69 :: exponent => readExponent negative n beyond exponent
      | _ =>
        if beyond ≠ 0 then (float negative n beyond).map (·, rest)
        else if !negative then .ok (.integer n, rest)
        else if n = 0 || 9223372036854775808 < n then (float true n 0).map (·, rest)
        else .ok (.integer (-n), rest)

end AnchoredMetadata.Json
