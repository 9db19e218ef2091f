import AnchoredMetadata.Json.Number

/-!
# Reading typed values

Texts, arrays, records and choices. A record is an object whose unknown fields
are skipped, or an array of its fields in order. At most 127 brackets may stand
inside one another: readers of bracketed values are told how many are left,
counted so that the last one is refused.
-/

namespace AnchoredMetadata.Json

/-- The bracket count at the start of a document. -/
def depthLimit : Nat := 128

/-- The report on a value of another kind than expected. A scalar is read first, so its own
faults come before. -/
def mismatch {α : Type} (expected : String) (bytes : List UInt8) : Except Fault α :=
  let found (f : Found) : Except Fault α := .error (.invalidType f expected)
  match bytes with
  | [] => .error .endInValue
  | b :: rest =>
    if b = 110 then do let _ ← readLetters nullLetters rest; found .null
    else if b = 116 then do let _ ← readLetters trueLetters rest; found (.boolean true)
    else if b = 102 then do let _ ← readLetters falseLetters rest; found (.boolean false)
    else if b = 45 then do let (n, _) ← readNumber true rest; found n
    else if isDigit b then do let (n, _) ← readNumber false bytes; found n
    else if b = 34 then do let (s, _) ← readStringRest rest; found (.string s)
    else if b = 91 then found .sequence
    else if b = 123 then found .map
    else .error .expectedValue

/-- Take off a string; `expected` names it in reports. -/
def readString (expected : String) : Reader String := fun bytes =>
  match skipSpace bytes with
  | 34 :: rest => readStringRest rest
  | other => mismatch expected other

/-- Take off `null` or a value. -/
def readOptional {α : Type} (value : Reader α) : Reader (Option α) := fun bytes =>
  match skipSpace bytes with
  | [] => .error .endInValue
  | 110 :: rest => (readLetters nullLetters rest).map (none, ·)
  | other => (value other).map fun (a, rest) => (some a, rest)

/-- Go to the next item of an array, or to its end. Give the bytes at the item, if there is
one, and else those after the bracket. -/
def nextItem (first : Bool) (bytes : List UInt8) :
    Except Fault (Bool × List UInt8) :=
  match skipSpace bytes with
  | [] => .error .endInList
  | 93 :: rest => .ok (false, rest)
  | b :: rest =>
    if first then .ok (true, b :: rest)
    else if b = 44 then
      match skipSpace rest with
      | [] => .error .endInValue
      | 93 :: _ => .error .trailingComma
      | next => .ok (true, next)
    else .error .expectedListCommaOrEnd

/-- Take off the items of an array up to its end. -/
def readItems {α : Type} (item : Reader α) : (fuel : Nat) → (first : Bool) → Reader (List α)
  | 0, _, _ => .error .endInList
  | fuel + 1, first, bytes => do
    let (more, rest) ← nextItem first bytes
    if more then
      let (a, rest) ← item rest
      let (as, rest) ← readItems item fuel false rest
      return (a :: as, rest)
    else return ([], rest)

/-- Take off an array. -/
def readList {α : Type} (depth : Nat) (item : Reader α) : Reader (List α) := fun bytes =>
  match skipSpace bytes with
  | 91 :: rest =>
    if depth ≤ 1 then .error .recursionLimit else readItems item (rest.length + 1) true rest
  | other => mismatch "a sequence" other

/-- A field of a record that is built up in a value of type `σ`. -/
structure Field (σ : Type) where
  /-- The name in reports. -/
  name : String
  /-- The names under which it may be given. -/
  keys : List String
  /-- Whether there is no record without it. -/
  required : Bool
  /-- Whether it was given already. -/
  isGiven : σ → Bool
  /-- Read the value and say how it is kept. -/
  read : Reader (σ → σ)

/-- A field under one name. -/
def Field.named {σ α : Type} (name : String) (required : Bool) (get : σ → Option α)
    (set : σ → α → σ) (value : Reader α) : Field σ :=
  ⟨name, [name], required, fun s => (get s).isSome,
    fun bytes => (value bytes).map fun (a, rest) => (fun s => set s a, rest)⟩

/-- Go to the next key of an object, or to its end. Give the bytes after the quote of the key,
if there is one, and else those after the bracket. -/
def nextKey (first : Bool) (bytes : List UInt8) : Except Fault (Bool × List UInt8) := do
  let candidate ← match skipSpace bytes with
    | [] => throw .endInObject
    | 125 :: rest => return (false, rest)
    | b :: rest =>
      if first then pure (b :: rest)
      else if b = 44 then pure (skipSpace rest)
      else throw .expectedObjectCommaOrEnd
  match candidate with
  | [] => throw .endInValue
  | 34 :: rest => return (true, rest)
  | 125 :: _ => throw .trailingComma
  | _ => throw .keyMustBeString

/-- Take off the colon after a key. -/
def readColon (bytes : List UInt8) : Except Fault (List UInt8) :=
  match skipSpace bytes with
  | [] => .error .endInObject
  | 58 :: rest => .ok rest
  | _ => .error .expectedColon

/-- Take off the members of an object up to its end. -/
def readMembers {σ : Type} (fields : List (Field σ)) :
    (fuel : Nat) → (first : Bool) → σ → Reader σ
  | 0, _, _, _ => .error .endInObject
  | fuel + 1, first, s, bytes => do
    let (more, rest) ← nextKey first bytes
    if more then
      let (key, rest) ← readStringRest rest
      match fields.find? fun f => f.keys.contains key with
      | some f =>
        if f.isGiven s then throw (.duplicateField f.name)
        let rest ← readColon rest
        let (store, rest) ← f.read rest
        readMembers fields fuel false (store s) rest
      | none =>
        let rest ← skipValue (← readColon rest)
        readMembers fields fuel false s rest
    else return (s, rest)

/-- Take off the closing bracket after the last field of a record. -/
def readListEnd (bytes : List UInt8) : Except Fault (List UInt8) :=
  match skipSpace bytes with
  | [] => .error .endInList
  | 93 :: rest => .ok rest
  | 44 :: rest =>
    match skipSpace rest with
    | 93 :: _ => .error .trailingComma
    | _ => .error .trailingCharacters
  | _ => .error .trailingCharacters

/-- A record and the number of its fields, as reports name them. -/
def lengthText (title : String) (count : Nat) : String :=
  "struct " ++ title ++ " with " ++ toString count ++
    (if count = 1 then " element" else " elements")

/-- Take off the fields of a record from an array up to its end. Fields at the end may be
missing unless one of them is required. -/
def readFields {σ : Type} (title : String) (count : Nat) :
    List (Field σ) → (first : Bool) → σ → Reader σ
  | [], _, s, bytes => (readListEnd bytes).map (s, ·)
  | f :: fields, first, s, bytes => do
    let (more, rest) ← nextItem first bytes
    if more then
      let (store, rest) ← f.read rest
      readFields title count fields false (store s) rest
    else
      match (f :: fields).findIdx? fun g => g.required with
      | some i =>
        throw (.invalidLength (count - (fields.length + 1) + i) (lengthText title count))
      | none => return (s, rest)

/-- Take off a record and gather its fields. -/
def readRecord {σ : Type} (title : String) (fields : List (Field σ)) (init : σ) (depth : Nat) :
    Reader σ := fun bytes =>
  match skipSpace bytes with
  | 91 :: rest =>
    if depth ≤ 1 then .error .recursionLimit
    else readFields title fields.length fields true init rest
  | 123 :: rest =>
    if depth ≤ 1 then .error .recursionLimit
    else do
      let (s, rest) ← readMembers fields (rest.length + 1) true init rest
      match fields.find? fun f => f.required && !f.isGiven s with
      | some f => throw (.missingField f.name)
      | none => return (s, rest)
  | other => mismatch ("struct " ++ title) other

/-- The value with a name among some choices. -/
def choose {α : Type} (choices : List (String × α)) (name : String) : Except Fault α :=
  match choices.lookup name with
  | some a => .ok a
  | none => .error (.unknownVariant name (choices.map Prod.fst))

/-- Take off a choice without content: its name, or an object with `null` under its name. -/
def readChoice {α : Type} (choices : List (String × α)) (depth : Nat) : Reader α := fun bytes =>
  match skipSpace bytes with
  | [] => .error .endInValue
  | 34 :: rest => do
    let (name, rest) ← readStringRest rest
    return (← choose choices name, rest)
  | 123 :: rest =>
    if depth ≤ 1 then .error .recursionLimit
    else do
      let (name, rest) ← readString "variant identifier" rest
      let a ← choose choices name
      let rest ← readColon rest
      let rest ← match skipSpace rest with
        | 110 :: rest => readLetters nullLetters rest
        | other => mismatch "unit" other
      match skipSpace rest with
      | [] => throw .endInObject
      | 125 :: rest => return (a, rest)
      | _ => throw .expectedValue
  | _ => .error .expectedValue

/-- Take off a choice with content: an object with one member, the content under its name. -/
def readTagged {α : Type} (choices : List (String × Reader α)) (depth : Nat) : Reader α :=
  fun bytes =>
    match skipSpace bytes with
    | [] => .error .endInValue
    | 34 :: rest => do
      let (name, _) ← readStringRest rest
      let _ ← choose choices name
      throw (.invalidType .unitVariant "newtype variant")
    | 123 :: rest =>
      if depth ≤ 1 then .error .recursionLimit
      else do
        let (name, rest) ← readString "variant identifier" rest
        let content ← choose choices name
        let (a, rest) ← content (← readColon rest)
        match skipSpace rest with
        | [] => throw .endInObject
        | 125 :: rest => return (a, rest)
        | _ => throw .expectedValue
    | _ => .error .expectedValue

/-- Read a whole document. -/
def readDocument {α : Type} (value : Reader α) (bytes : List UInt8) : Except Fault α := do
  let (a, rest) ← value bytes
  if (skipSpace rest).isEmpty then return a else throw .trailingCharacters

end AnchoredMetadata.Json
