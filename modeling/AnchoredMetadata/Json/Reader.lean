import AnchoredMetadata.Json.Fault
import AnchoredMetadata.Text.Hex
import AnchoredMetadata.Text.Utf8

/-!
# Reading JSON

A reader takes one value off the front of a document, of the kind its place
asks for, or reports the first thing that is wrong. Values that are not asked
for are skipped; only their form is checked.
-/

namespace AnchoredMetadata.Json

/-- A reader takes a value off the front of some bytes. -/
abbrev Reader (α : Type) := List UInt8 → Except Fault (α × List UInt8)

/-- Whether a byte may stand between the parts of a document. -/
def isSpace (b : UInt8) : Bool := b = 32 || b = 10 || b = 9 || b = 13

/-- Drop the space at the front. -/
def skipSpace (bytes : List UInt8) : List UInt8 := bytes.dropWhile isSpace

/-! ## Strings -/

/-- The value of four hexadecimal digits. -/
def hexUnit? (a b c d : UInt8) : Option Nat := do
  let digit (x : UInt8) : Option Nat := Text.hexValue? (Char.ofNat x.toNat)
  return (← digit a) * 4096 + (← digit b) * 256 + (← digit c) * 16 + (← digit d)

/-- Take off four hexadecimal digits. -/
def readHexUnit : Reader Nat
  | a :: b :: c :: d :: rest =>
    match hexUnit? a b c d with
    | some n => .ok (n, rest)
    | none => .error .invalidEscape
  | _ => .error .endInString

/-- The character that a letter after a backslash stands for. -/
def simpleEscape? (b : UInt8) : Option UInt8 :=
  if b = 34 || b = 92 || b = 47 then some b
  else if b = 98 then some 8
  else if b = 102 then some 12
  else if b = 110 then some 10
  else if b = 114 then some 13
  else if b = 116 then some 9
  else none

/-- Take off the rest of an escape by code after its `u`: one unit, or a leading surrogate and
an escaped trailing one. -/
def readCodeEscape (bytes : List UInt8) : Except Fault (Char × List UInt8) := do
  let (n, rest) ← readHexUnit bytes
  if 0xDC00 ≤ n && n ≤ 0xDFFF then throw .loneSurrogate
  else if n < 0xD800 || 0xDBFF < n then return (Char.ofNat n, rest)
  else
    match rest with
    | [] => throw .endInString
    | 92 :: rest =>
      match rest with
      | [] => throw .endInString
      | 117 :: rest =>
        let (m, rest) ← readHexUnit rest
        if m < 0xDC00 || 0xDFFF < m then throw .loneSurrogate
        else return (Char.ofNat (0x10000 + (n - 0xD800) * 1024 + (m - 0xDC00)), rest)
      | _ => throw .endOfHexEscape
    | _ => throw .endOfHexEscape

/-- Take off the bytes of a string up to its closing quote, with escapes resolved. -/
def readStringBytes : (fuel : Nat) → Reader (List UInt8)
  | 0, _ => .error .endInString
  | _, [] => .error .endInString
  | fuel + 1, b :: rest =>
    if b = 34 then .ok ([], rest)
    else if b = 92 then
      match rest with
      | [] => .error .endInString
      | e :: rest =>
        if e = 117 then do
          let (c, rest) ← readCodeEscape rest
          let (more, rest) ← readStringBytes fuel rest
          return (String.utf8EncodeChar c ++ more, rest)
        else
          match simpleEscape? e with
          | some x => do
            let (more, rest) ← readStringBytes fuel rest
            return (x :: more, rest)
          | none => .error .invalidEscape
    else if b < 32 then .error .controlCharacter
    else do
      let (more, rest) ← readStringBytes fuel rest
      return (b :: more, rest)

/-- Take off a string after its opening quote. -/
def readStringRest : Reader String := fun bytes => do
  let (content, rest) ← readStringBytes (bytes.length + 1) bytes
  match Text.utf8Decode? content with
  | some cs => return (String.ofList cs, rest)
  | none => throw .invalidUnicode

/-- Skip a string after its opening quote; its bytes need not be UTF-8, and its escaped
surrogates need not be paired. -/
def skipStringRest : (fuel : Nat) → List UInt8 → Except Fault (List UInt8)
  | 0, _ => .error .endInString
  | _, [] => .error .endInString
  | fuel + 1, b :: rest =>
    if b = 34 then .ok rest
    else if b = 92 then
      match rest with
      | [] => .error .endInString
      | e :: rest =>
        if e = 117 then do
          let (_, rest) ← readHexUnit rest
          skipStringRest fuel rest
        else if (simpleEscape? e).isSome then skipStringRest fuel rest
        else .error .invalidEscape
    else if b < 32 then .error .controlCharacter
    else skipStringRest fuel rest

/-! ## Literals -/

/-- Take off the given bytes. -/
def readLetters : List UInt8 → List UInt8 → Except Fault (List UInt8)
  | [], bytes => .ok bytes
  | _ :: _, [] => .error .endInValue
  | x :: xs, b :: rest => if b = x then readLetters xs rest else .error .expectedIdent

/-- The letters of `null` after the first. -/
def nullLetters : List UInt8 := [117, 108, 108]
/-- The letters of `true` after the first. -/
def trueLetters : List UInt8 := [114, 117, 101]
/-- The letters of `false` after the first. -/
def falseLetters : List UInt8 := [97, 108, 115, 101]

/-! ## Numbers that are skipped -/

/-- Whether a byte is a decimal digit. -/
def isDigit (b : UInt8) : Bool := 48 ≤ b && b ≤ 57

/-- Skip an exponent after its letter. -/
def skipExponent (bytes : List UInt8) : Except Fault (List UInt8) :=
  let unsigned := match bytes with
    | 43 :: rest => rest
    | 45 :: rest => rest
    | _ => bytes
  match unsigned with
  | b :: rest => if isDigit b then .ok (rest.dropWhile isDigit) else .error .invalidNumber
  | [] => .error .invalidNumber

/-- Skip what follows the whole part of a number. -/
def skipFraction : List UInt8 → Except Fault (List UInt8)
  | 46 :: rest =>
    match rest with
    | b :: more =>
      if isDigit b then
        match more.dropWhile isDigit with
        | 101 :: rest => skipExponent rest
        | 69 :: rest => skipExponent rest
        | rest => .ok rest
      else .error .invalidNumber
    | [] => .error .invalidNumber
  | 101 :: rest => skipExponent rest
  | 69 :: rest => skipExponent rest
  | rest => .ok rest

/-- Skip a number without its sign. -/
def skipNumber : List UInt8 → Except Fault (List UInt8)
  | 48 :: rest =>
    match rest with
    | b :: _ => if isDigit b then .error .invalidNumber else skipFraction rest
    | [] => .ok []
  | b :: rest =>
    if isDigit b then skipFraction (rest.dropWhile isDigit) else .error .invalidNumber
  | [] => .error .invalidNumber

/-! ## Values that are skipped -/

/-- The two kinds of brackets. -/
inductive Bracket where
  /-- An array. -/
  | list
  /-- An object. -/
  | object
  deriving DecidableEq, Repr

/-- The byte that closes a bracket. -/
def Bracket.closing : Bracket → UInt8
  | .list => 93
  | .object => 125

/-- Skip a key and its colon. -/
def skipKey (bytes : List UInt8) : Except Fault (List UInt8) :=
  match skipSpace bytes with
  | [] => .error .endInObject
  | 34 :: rest => do
    let rest ← skipStringRest (rest.length + 1) rest
    match skipSpace rest with
    | [] => throw .endInObject
    | 58 :: rest => return rest
    | _ => throw .expectedColon
  | _ => .error .keyMustBeString

/-- Go on to the next value to skip inside open brackets, innermost first, or say that the
outermost is closed. A comma is taken only after a value. -/
def skipBetween (afterValue : Bool) :
    List Bracket → List UInt8 → Except Fault (List Bracket × List UInt8)
  | [], bytes => .ok ([], bytes)
  | bracket :: outer, bytes =>
    match skipSpace bytes with
    | [] => .error (if bracket = .list then .endInList else .endInObject)
    | b :: rest =>
      if b = bracket.closing then skipBetween true outer rest
      else if afterValue && b ≠ 44 then
        .error (if bracket = .list then .expectedListCommaOrEnd else .expectedObjectCommaOrEnd)
      else
        let next := if afterValue then rest else b :: rest
        if bracket = .object then (skipKey next).map (bracket :: outer, ·)
        else .ok (bracket :: outer, next)

/-- Skip values until all brackets are closed. -/
def skipValues : (fuel : Nat) → List Bracket → List UInt8 → Except Fault (List UInt8)
  | 0, _, _ => .error .endInValue
  | fuel + 1, brackets, bytes =>
    let scalar (result : Except Fault (List UInt8)) : Except Fault (List UInt8) := do
      let (brackets, rest) ← skipBetween true brackets (← result)
      if brackets.isEmpty then return rest else skipValues fuel brackets rest
    let nested (bracket : Bracket) (rest : List UInt8) : Except Fault (List UInt8) := do
      let (brackets, rest) ← skipBetween false (bracket :: brackets) rest
      if brackets.isEmpty then return rest else skipValues fuel brackets rest
    match skipSpace bytes with
    | [] => .error .endInValue
    | b :: rest =>
      if b = 110 then scalar (readLetters nullLetters rest)
      else if b = 116 then scalar (readLetters trueLetters rest)
      else if b = 102 then scalar (readLetters falseLetters rest)
      else if b = 45 then scalar (skipNumber rest)
      else if isDigit b then scalar (skipNumber (b :: rest))
      else if b = 34 then scalar (skipStringRest (rest.length + 1) rest)
      else if b = 91 then nested .list rest
      else if b = 123 then nested .object rest
      else .error .expectedValue

/-- Skip a value. -/
def skipValue (bytes : List UInt8) : Except Fault (List UInt8) :=
  skipValues (bytes.length + 1) [] bytes

end AnchoredMetadata.Json
