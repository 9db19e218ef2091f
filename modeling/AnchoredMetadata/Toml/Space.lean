/-!
# Space and comments

What stands between the parts of a TOML document. Lines end in a line feed,
which a carriage return may precede; a carriage return has no other place.
-/

namespace AnchoredMetadata.Toml

/-- Reading takes something off the front of a text, or refuses it. -/
abbrev Reader (α : Type) := List Char → Option (α × List Char)

/-- Whether a character may stand in comments and literal text. -/
def isPlain (c : Char) : Bool := c = '\t' || (32 ≤ c.toNat && c.toNat ≠ 127)

/-- Whether a character is space within a line. -/
def isSpace (c : Char) : Bool := c = ' ' || c = '\t'

/-- Skip space within a line. -/
def skipSpace (cs : List Char) : List Char := cs.dropWhile isSpace

/-- Take off the end of a line. -/
def newline? : List Char → Option (List Char)
  | '\n' :: rest => some rest
  | '\r' :: '\n' :: rest => some rest
  | _ => none

/-- Skip a comment up to the end of its line. -/
def skipComment : List Char → List Char
  | '#' :: rest => rest.dropWhile isPlain
  | cs => cs

/-- Take off what may follow the last part of a line, and its end. -/
def endLine? (cs : List Char) : Option (List Char) :=
  match skipComment (skipSpace cs) with
  | [] => some []
  | rest => newline? rest

/-- Skip space, lines and comments. -/
def skipLines (inComment : Bool) : List Char → List Char
  | [] => []
  | '\n' :: rest => skipLines false rest
  | '\r' :: '\n' :: rest => skipLines false rest
  | c :: rest =>
    if inComment then
      if isPlain c then skipLines true rest else c :: rest
    else if isSpace c then skipLines false rest
    else if c = '#' then skipLines true rest
    else c :: rest

end AnchoredMetadata.Toml
