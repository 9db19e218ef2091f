import AnchoredMetadata.Toml.Number
import AnchoredMetadata.Toml.Text
import AnchoredMetadata.Toml.Members

/-!
# TOML statements

A document is a row of statements: headers of tables, and keys with values.
-/

namespace AnchoredMetadata.Toml

/-- A dotted key. -/
structure Key where
  /-- The names before the last one. -/
  path : List String
  /-- The last name. -/
  last : String
  deriving DecidableEq, Repr

/-- A key may have fewer names than this, and brackets of values may stand within fewer others. -/
def depthLimit : Nat := 80

/-- Whether a character may stand in a name without quotes. -/
def isBare (c : Char) : Bool := c.isAlphanum || c = '-' || c = '_'

/-- Take off a name. -/
def readName : Reader String
  | '"' :: rest => (readBasic rest).map fun (name, rest) => (String.ofList name, rest)
  | '\'' :: rest => (readLiteral rest).map fun (name, rest) => (String.ofList name, rest)
  | cs =>
    let name := cs.takeWhile isBare
    if name.isEmpty then none else some (String.ofList name, cs.dropWhile isBare)

/-- Take off at most a number of names with dots between them, and the space around them. -/
def readNames : (limit : Nat) → Reader Key
  | 0, _ => none
  | limit + 1, cs => do
    let (name, rest) ← readName (skipSpace cs)
    match skipSpace rest with
    | '.' :: rest => do
      let (key, rest) ← readNames limit rest
      return (⟨name :: key.path, key.last⟩, rest)
    | rest => return (⟨[], name⟩, rest)

/-- Take off a key. -/
def readKey : Reader Key := readNames (depthLimit - 1)

/-- Take off a key with its value. -/
def readPair (value : Reader Value) : Reader (Key × Value) := fun cs => do
  let (key, rest) ← readKey cs
  let (v, rest) ← value (skipSpace (← readChar '=' rest))
  return ((key, v), rest)

/-- Take off the items of a list up to its end. -/
def readItems (value : Reader Value) : (fuel : Nat) → Reader (List Value)
  | 0, _ => none
  | fuel + 1, cs =>
    match skipLines false cs with
    | ']' :: rest => some ([], rest)
    | cs => do
      let (v, rest) ← value cs
      match skipLines false rest with
      | ',' :: rest => do
        let (vs, rest) ← readItems value fuel rest
        return (v :: vs, rest)
      | ']' :: rest => return ([v], rest)
      | _ => none

/-- Take off the members of a table between braces up to its end. -/
def readMembers (value : Reader Value) : (fuel : Nat) → Members → Reader Members
  | 0, _, _ => none
  | fuel + 1, members, cs => do
    let ((key, v), rest) ← readPair value cs
    let members ← members.assign key.path key.last v
    match skipSpace rest with
    | ',' :: rest => readMembers value fuel members rest
    | '}' :: rest => return (members, rest)
    | _ => none

/-- Take off a table after its opening brace. -/
def readInline (value : Reader Value) : Reader Members := fun cs =>
  match skipSpace cs with
  | '}' :: rest => some ([], rest)
  | _ => readMembers value (cs.length + 1) [] cs

/-- Take off a value that is no list and no table. -/
def readScalar (cs : List Char) : Option (Value × List Char) :=
  match cs with
  | 't' :: 'r' :: 'u' :: 'e' :: rest => some (.boolean true, rest)
  | 'f' :: 'a' :: 'l' :: 's' :: 'e' :: rest => some (.boolean false, rest)
  | '"' :: _ | '\'' :: _ =>
    (readText cs).map fun (text, rest) => (.text (String.ofList text), rest)
  | _ =>
    match readMoment cs with
    | some rest => some (.moment, rest)
    | none =>
      match readNumber cs with
      | some (.whole n, rest) => some (.integer n, rest)
      | some (.float, rest) => some (.float, rest)
      | none => none

/-- Take off a value within which brackets may stand to some depth. -/
def readValue : (depth : Nat) → Reader Value
  | 0, cs => readScalar cs
  | depth + 1, cs =>
    match cs with
    | '[' :: rest =>
      (readItems (readValue depth) (rest.length + 1) rest).map fun (items, rest) =>
        (.array false items, rest)
    | '\x7b' :: rest =>
      (readInline (readValue depth) rest).map fun (members, rest) =>
        (.table .inline members, rest)
    | _ => readScalar cs

/-- A statement. -/
inductive Statement where
  /-- A key with its value. -/
  | pair (key : Key) (value : Value)
  /-- The header of a table. -/
  | header (key : Key)
  /-- The header of one more table in a list. -/
  | itemHeader (key : Key)

/-- Take off a statement that is the first thing on a line, and the rest of the line. -/
def readStatement : Reader Statement
  | '[' :: '[' :: rest => do
    let (key, rest) ← readKey rest
    let rest ← endLine? (← readChar ']' (← readChar ']' rest))
    return (.itemHeader key, rest)
  | '[' :: rest => do
    let (key, rest) ← readKey rest
    let rest ← endLine? (← readChar ']' rest)
    return (.header key, rest)
  | cs => do
    let ((key, v), rest) ← readPair (readValue (depthLimit - 1)) cs
    return (.pair key v, ← endLine? rest)

/-- Read all statements of a document. -/
def readStatements : (fuel : Nat) → List Char → Option (List Statement)
  | 0, _ => none
  | fuel + 1, cs =>
    match skipLines false cs with
    | [] => some []
    | cs => do
      let (s, rest) ← readStatement cs
      return s :: (← readStatements fuel rest)

/-- The statements of a document. A mark of the byte order may stand at its start. -/
def statements (document : List Char) : Option (List Statement) :=
  readStatements (document.length + 1) (match document with
    | '\uFEFF' :: rest => rest
    | cs => cs)

end AnchoredMetadata.Toml
