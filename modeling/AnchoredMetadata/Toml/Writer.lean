import AnchoredMetadata.Toml.Text

/-!
# Writing TOML

A document is written as a row of tables, each under a header, with an empty
line between them. A list of several texts takes a line for each.
-/

namespace AnchoredMetadata.Toml

/-- What is written for a key. -/
inductive Content where
  /-- A text. -/
  | text (s : String)
  /-- A whole number. -/
  | integer (n : Int)
  /-- A list of texts. -/
  | texts (items : List String)
  deriving DecidableEq, Repr

/-- A table with its header. -/
structure Block where
  /-- The names of the header. -/
  path : List String
  /-- The keys with what is written for them. -/
  pairs : List (String × Content)
  deriving DecidableEq, Repr

/-- A list of texts. -/
def writeTexts : List String → List Char
  | [] => ['[', ']']
  | [s] => '[' :: writeText s.toList ++ [']']
  | items =>
    '[' :: items.flatMap (fun s => "\n    ".toList ++ writeText s.toList ++ [',']) ++ ['\n', ']']

/-- The content of a key. -/
def writeContent : Content → List Char
  | .text s => writeText s.toList
  | .integer n => (toString n).toList
  | .texts items => writeTexts items

/-- A key with its content on a line. -/
def writePair (pair : String × Content) : List Char :=
  pair.1.toList ++ " = ".toList ++ writeContent pair.2 ++ ['\n']

/-- A table. -/
def writeBlock (b : Block) : List Char :=
  '[' :: (".".intercalate b.path).toList ++ [']', '\n'] ++ b.pairs.flatMap writePair

/-- A document. -/
def write : List Block → List Char
  | [] => []
  | [b] => writeBlock b
  | b :: rest => writeBlock b ++ '\n' :: write rest

end AnchoredMetadata.Toml
