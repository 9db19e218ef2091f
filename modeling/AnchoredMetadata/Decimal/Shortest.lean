/-!
# Shortest decimals

The shortest decimal that rounds to a given binary number, and of several the
one nearest to it. The number and the reals that round to it are held as exact
fractions.
-/

namespace AnchoredMetadata.Decimal

/-- A decimal `digits · 10 ^ exponent`. -/
structure Scientific where
  /-- The digits as a number. -/
  digits : Nat
  /-- The power of ten. -/
  exponent : Int
  deriving DecidableEq, Repr

/-- A positive number with the ends of the reals that round to it, over one denominator. -/
structure Rounding where
  /-- The number. -/
  value : Nat
  /-- The lower end. -/
  low : Nat
  /-- The upper end. -/
  high : Nat
  /-- The denominator of all three. -/
  denominator : Nat
  /-- Whether the ends round to the number too. -/
  endsIncluded : Bool
  deriving DecidableEq, Repr

/-- The positive finite number with the given bits of a double. -/
def Rounding.ofBits (bits : Nat) : Rounding :=
  let field := bits / Nat.pow 2 52 % 2048
  let fraction := bits % Nat.pow 2 52
  let mantissa := if field = 0 then fraction else fraction + Nat.pow 2 52
  let exponent : Int := ((if field = 0 then 1 else field : Nat) : Int) - 1077
  let below := if fraction = 0 && 1 < field then 1 else 2
  let scale := Nat.pow 2 exponent.toNat
  ⟨4 * mantissa * scale, (4 * mantissa - below) * scale, (4 * mantissa + 2) * scale,
    Nat.pow 2 (-exponent).toNat, mantissa % 2 == 0⟩

/-- The least number of decimal shifts that bring a fraction to one or more, up to `fuel`. -/
def shiftsToOne (numerator denominator : Nat) : (fuel : Nat) → Nat
  | 0 => 0
  | fuel + 1 =>
    if denominator ≤ numerator then 0 else shiftsToOne (numerator * 10) denominator fuel + 1

/-- The exponent of the first digit. -/
def Rounding.magnitude (r : Rounding) : Int :=
  if r.denominator ≤ r.value then
    ((Nat.toDigits 10 (r.value / r.denominator)).length : Int) - 1
  else -(shiftsToOne r.value r.denominator 400 : Nat)

/-- Whether a decimal rounds to the number. -/
def Rounding.admits (r : Rounding) (s : Scientific) : Bool :=
  let n := s.digits * r.denominator * Nat.pow 10 s.exponent.toNat
  let scale := Nat.pow 10 (-s.exponent).toNat
  (r.low * scale < n && n < r.high * scale) ||
    (r.endsIncluded && (r.low * scale = n || n = r.high * scale))

/-- The neighbour on the grid of a power of ten that rounds to the number, the nearer if both
do; a tie goes to the even one. -/
def Rounding.onGrid? (r : Rounding) (exponent : Int) : Option Scientific :=
  let numerator := r.value * Nat.pow 10 (-exponent).toNat
  let denominator := r.denominator * Nat.pow 10 exponent.toNat
  let floor := numerator / denominator
  let below : Scientific := ⟨floor, exponent⟩
  let above : Scientific := ⟨floor + 1, exponent⟩
  let twice := 2 * (numerator % denominator)
  match r.admits below, r.admits above with
  | true, true =>
    if twice < denominator || (twice = denominator && floor % 2 = 0) then some below
    else some above
  | true, false => some below
  | false, true => some above
  | false, false => none

/-- The shortest decimal of at most seventeen digits. -/
def Rounding.shortest (r : Rounding) : Scientific :=
  let first := r.magnitude
  ((List.range 17).findSome? fun n : Nat => r.onGrid? (first - n)).getD ⟨0, 0⟩

/-- Drop the zeros at the end of the digits, at most `fuel` of them. -/
def Scientific.trim (s : Scientific) : (fuel : Nat) → Scientific
  | 0 => s
  | fuel + 1 =>
    if s.digits ≠ 0 && s.digits % 10 = 0 then
      Scientific.trim ⟨s.digits / 10, s.exponent + 1⟩ fuel
    else s

/-- A decimal in positional form with a point from `1e-5` up to sixteen digits before the
point, else with an exponent. -/
def Scientific.text (s : Scientific) : String :=
  let digits := Nat.toDigits 10 s.digits
  let point := (digits.length : Int) + s.exponent
  if 0 ≤ s.exponent && point ≤ 16 then
    String.ofList (digits ++ List.replicate s.exponent.toNat '0') ++ ".0"
  else if 0 < point && point ≤ 16 then
    String.ofList (digits.take point.toNat ++ '.' :: digits.drop point.toNat)
  else if -5 < point && point ≤ 0 then
    "0." ++ String.ofList (List.replicate (-point).toNat '0' ++ digits)
  else
    let fraction := digits.drop 1
    String.ofList (digits.take 1 ++ (if fraction.isEmpty then [] else '.' :: fraction)) ++ "e" ++
      toString (point - 1)

/-- The text of a finite double from its bits. -/
def textOfBits (bits : Nat) : String :=
  let magnitude := bits % Nat.pow 2 63
  (if bits / Nat.pow 2 63 % 2 = 1 then "-" else "") ++
    if magnitude = 0 then "0.0"
    else ((Rounding.ofBits magnitude).shortest.trim 20).text

end AnchoredMetadata.Decimal
