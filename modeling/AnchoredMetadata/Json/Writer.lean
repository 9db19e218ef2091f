import AnchoredMetadata.Text.Hex

/-!
# Writing JSON

Compact documents, without space between their parts. In strings only quotes,
backslashes and control characters are escaped.
-/

namespace AnchoredMetadata.Json

/-- A character of a string. -/
def writeChar (c : Char) : List Char :=
  if c = '"' then ['\\', '"']
  else if c = '\\' then ['\\', '\\']
  else if c = '\x08' then ['\\', 'b']
  else if c = '\x0c' then ['\\', 'f']
  else if c = '\n' then ['\\', 'n']
  else if c = '\r' then ['\\', 'r']
  else if c = '\t' then ['\\', 't']
  else if c.toNat < 32 then
    ['\\', 'u', '0', '0', Text.hexDigit (c.toNat / 16), Text.hexDigit (c.toNat % 16)]
  else [c]

/-- A string. -/
def writeString (s : String) : List Char := '"' :: s.toList.flatMap writeChar ++ ['"']

/-- Items with commas between them. -/
def separate : List (List Char) → List Char
  | [] => []
  | [item] => item
  | item :: rest => item ++ ',' :: separate rest

/-- An array of written items. -/
def writeList (items : List (List Char)) : List Char := '[' :: separate items ++ [']']

/-- A member of an object. -/
def writeMember (key : String) (value : List Char) : List Char := writeString key ++ ':' :: value

/-- An object of written members. -/
def writeObject (members : List (List Char)) : List Char :=
  '\x7b' :: separate members ++ ['\x7d']

end AnchoredMetadata.Json
