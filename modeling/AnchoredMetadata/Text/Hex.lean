/-!
# Hexadecimal digits

Two digits a byte, in one of the two cases.
-/

namespace AnchoredMetadata.Text

/-- A lower-case hexadecimal digit; a value of sixteen or more takes the digit `f`. -/
def hexDigit (n : Nat) : Char :=
  match n with
  | 0 => '0' | 1 => '1' | 2 => '2' | 3 => '3' | 4 => '4' | 5 => '5' | 6 => '6' | 7 => '7'
  | 8 => '8' | 9 => '9' | 10 => 'a' | 11 => 'b' | 12 => 'c' | 13 => 'd' | 14 => 'e' | _ => 'f'

/-- An upper-case hexadecimal digit. -/
def hexDigitUpper (n : Nat) : Char := (hexDigit n).toUpper

/-- Two lower-case digits a byte. -/
def hex (bytes : List UInt8) : String :=
  String.ofList (bytes.flatMap fun b => [hexDigit (b.toNat / 16), hexDigit (b.toNat % 16)])

/-- Two upper-case digits a byte. -/
def hexUpper (bytes : List UInt8) : String :=
  String.ofList
    (bytes.flatMap fun b => [hexDigitUpper (b.toNat / 16), hexDigitUpper (b.toNat % 16)])

/-- The value of a hexadecimal digit of either case. -/
def hexValue? (c : Char) : Option Nat :=
  let n := c.toNat
  if 48 ≤ n && n ≤ 57 then some (n - 48)
  else if 97 ≤ n && n ≤ 102 then some (n - 87)
  else if 65 ≤ n && n ≤ 70 then some (n - 55)
  else none

/-- The lower-case digits of a number, without leading zeros; zero is `0`. -/
def hexOfNat (n : Nat) : String := String.ofList (Nat.toDigits 16 n)

end AnchoredMetadata.Text
