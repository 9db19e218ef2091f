import AnchoredMetadata.Text.Hex
import AnchoredMetadata.Toml.Space

/-!
# Numbers, dates and times in TOML

Whole numbers have 64 bits with a sign, in decimal, or without a sign in base
sixteen, eight or two. An underscore may stand between two digits. Other
numbers, dates and times are only recognised.
-/

namespace AnchoredMetadata.Toml

/-- The value of a digit in a base. -/
def digit? (base : Nat) (c : Char) : Option Nat :=
  match Text.hexValue? c with
  | some n => if n < base then some n else none
  | none => none

/-- Take off further digits of a number. -/
def readDigits (base : Nat) : Nat → List Char → Option (Nat × List Char)
  | n, [] => some (n, [])
  | n, ['_'] => some (n, ['_'])
  | n, '_' :: c :: rest =>
    match digit? base c with
    | some d => readDigits base (n * base + d) rest
    | none => none
  | n, c :: rest =>
    match digit? base c with
    | some d => readDigits base (n * base + d) rest
    | none => some (n, c :: rest)

/-- Take off the digits of a number; the first one may be zero. -/
def readNatural (base : Nat) : Reader Nat
  | [] => none
  | c :: rest =>
    match digit? base c with
    | some d => readDigits base d rest
    | none => none

/-- Take off a sign, if there is one. -/
def readSign : List Char → Bool × List Char
  | '-' :: rest => (true, rest)
  | '+' :: rest => (false, rest)
  | cs => (false, cs)

/-- Take off the whole part of a decimal number: zero alone, or digits that start otherwise. -/
def readWhole : Reader Nat
  | '0' :: rest => some (0, rest)
  | cs => readNatural 10 cs

/-- One past the largest number. -/
def limit : Nat := 9223372036854775808

/-- A whole number, unless it is out of range. -/
def ranged (negative : Bool) (n : Nat) : Option Int :=
  if negative then if n ≤ limit then some (-n) else none
  else if n < limit then some n else none

/-- A number: whole, or one of which only the kind is kept. -/
inductive Number where
  /-- A whole number. -/
  | whole (n : Int)
  /-- A number with a fraction or an exponent, or none. -/
  | float
  deriving DecidableEq, Repr

/-- The least number that is too large for a double, times two to the power of 970. -/
def doubleLimit : Nat := Nat.pow 2 54 - 1

/-- Whether digits times a power of ten are too large for a double. -/
def overflows (digits : Nat) (exponent : Int) : Bool :=
  let size : Int := (Nat.toDigits 10 digits).length + exponent
  if digits = 0 || size < 300 then false
  else if 320 < size then true
  else if 0 ≤ exponent then doubleLimit * Nat.pow 2 970 ≤ digits * Nat.pow 10 exponent.toNat
  else doubleLimit * Nat.pow 2 970 * Nat.pow 10 exponent.natAbs ≤ digits

/-- A number with a fraction or an exponent, unless it is too large. -/
def float (negative : Bool) (digits : Nat) (exponent : Int) : Option Number :=
  if !negative && overflows digits exponent then none else some .float

/-- Take off an exponent after its letter. -/
def readExponent : Reader Int := fun cs =>
  let (negative, rest) := readSign cs
  match readNatural 10 rest with
  | some (n, rest) => some (if negative then -n else n, rest)
  | none => none

/-- How many digits stand in a text. -/
def countDigits (cs : List Char) : Nat := (cs.filter fun c => (digit? 10 c).isSome).length

/-- Take off what follows the whole part of a decimal number. -/
def readDecimalRest (negative : Bool) (whole : Nat) : Reader Number
  | 'e' :: rest | 'E' :: rest => do
    let (e, rest) ← readExponent rest
    return (← float negative whole e, rest)
  | '.' :: rest => do
    let (fraction, after) ← readNatural 10 rest
    let places := countDigits (rest.take (rest.length - after.length))
    let digits := whole * Nat.pow 10 places + fraction
    match after with
    | 'e' :: more | 'E' :: more => do
      let (e, more) ← readExponent more
      return (← float negative digits (e - places), more)
    | _ => return (← float negative digits (-places), after)
  | rest => (ranged negative whole).map fun n => (.whole n, rest)

/-- Take off a number. -/
def readNumber : Reader Number
  | '0' :: 'x' :: rest => do
    let (n, rest) ← readNatural 16 rest
    return (.whole (← ranged false n), rest)
  | '0' :: 'o' :: rest => do
    let (n, rest) ← readNatural 8 rest
    return (.whole (← ranged false n), rest)
  | '0' :: 'b' :: rest => do
    let (n, rest) ← readNatural 2 rest
    return (.whole (← ranged false n), rest)
  | cs =>
    let (negative, rest) := readSign cs
    match rest with
    | 'i' :: 'n' :: 'f' :: rest => some (.float, rest)
    | 'n' :: 'a' :: 'n' :: rest => some (.float, rest)
    | _ => do
      let (n, rest) ← readWhole rest
      readDecimalRest negative n rest

/-! ## Dates and times -/

/-- Take off a number of two digits within bounds. -/
def readTwoDigits (least most : Nat) : Reader Nat
  | a :: b :: rest => do
    let n := (← digit? 10 a) * 10 + (← digit? 10 b)
    if least ≤ n ∧ n ≤ most then return (n, rest) else none
  | _ => none

/-- Take off a character. -/
def readChar (expected : Char) : List Char → Option (List Char)
  | c :: rest => if c = expected then some rest else none
  | [] => none

/-- The number of days in a month. -/
def daysIn (year month : Nat) : Nat :=
  if month = 2 then
    if year % 4 = 0 && (year % 100 ≠ 0 || year % 400 = 0) then 29 else 28
  else if month = 4 || month = 6 || month = 9 || month = 11 then 30
  else 31

/-- Take off a date. -/
def readDate (cs : List Char) : Option (List Char) := do
  let (century, rest) ← readTwoDigits 0 99 cs
  let (year, rest) ← readTwoDigits 0 99 rest
  let (month, rest) ← readTwoDigits 1 12 (← readChar '-' rest)
  let (_, rest) ← readTwoDigits 1 (daysIn (century * 100 + year) month) (← readChar '-' rest)
  return rest

/-- Skip a fraction of a second, if there is one. -/
def skipFraction (cs : List Char) : List Char :=
  match cs with
  | '.' :: c :: rest =>
    if (digit? 10 c).isSome then rest.dropWhile fun c => (digit? 10 c).isSome else cs
  | _ => cs

/-- Take off a time of day. -/
def readTime (cs : List Char) : Option (List Char) := do
  let (_, rest) ← readTwoDigits 0 23 cs
  let (_, rest) ← readTwoDigits 0 59 (← readChar ':' rest)
  let (_, rest) ← readTwoDigits 0 60 (← readChar ':' rest)
  return skipFraction rest

/-- Take off an offset from UTC. -/
def readOffset : List Char → Option (List Char)
  | 'Z' :: rest | 'z' :: rest => some rest
  | '+' :: rest | '-' :: rest => do
    let (_, rest) ← readTwoDigits 0 23 rest
    let (_, rest) ← readTwoDigits 0 59 (← readChar ':' rest)
    return rest
  | _ => none

/-- Take off a time of day after the letter or space that joins it to a date. -/
def readJoinedTime : List Char → Option (List Char)
  | 'T' :: rest | 't' :: rest | ' ' :: rest => readTime rest
  | _ => none

/-- Take off a date, a time, or both. -/
def readMoment (cs : List Char) : Option (List Char) :=
  match readDate cs with
  | some rest =>
    match readJoinedTime rest with
    | some after => some ((readOffset after).getD after)
    | none => some rest
  | none => readTime cs

end AnchoredMetadata.Toml
