import AnchoredMetadata.Json.Fault
import AnchoredMetadata.Text.Quoted

/-!
# The wording of faults

Each fault in a few words, without its position.
-/

namespace AnchoredMetadata.Json

/-- A name in grave accents. -/
def marked (name : String) : String := "\x60" ++ name ++ "\x60"

/-- The names of a choice: one, two joined by `or`, or a list. -/
def choiceText : List String → String
  | [] => "there are no variants"
  | [a] => "expected " ++ marked a
  | [a, b] => "expected " ++ marked a ++ " or " ++ marked b
  | names => "expected one of " ++ ", ".intercalate (names.map marked)

/-- A value as reports name it. -/
def Found.text : Found → String
  | .null => "null"
  | .boolean b => "boolean " ++ marked (toString b)
  | .integer n => "integer " ++ marked (toString n)
  | .float t => "floating point " ++ marked t
  | .string s => "string " ++ Text.quoted s
  | .sequence => "sequence"
  | .map => "map"
  | .unitVariant => "unit variant"

/-- The wording of a fault. -/
def Fault.message : Fault → String
  | .endInList => "EOF while parsing a list"
  | .endInObject => "EOF while parsing an object"
  | .endInString => "EOF while parsing a string"
  | .endInValue => "EOF while parsing a value"
  | .expectedColon => "expected " ++ marked ":"
  | .expectedListCommaOrEnd => "expected " ++ marked "," ++ " or " ++ marked "]"
  | .expectedObjectCommaOrEnd => "expected " ++ marked "," ++ " or " ++ marked "\x7d"
  | .expectedIdent => "expected ident"
  | .expectedValue => "expected value"
  | .invalidEscape => "invalid escape"
  | .invalidNumber => "invalid number"
  | .numberOutOfRange => "number out of range"
  | .invalidUnicode => "invalid unicode code point"
  | .controlCharacter =>
    "control character (\\u0000-\\u001F) found while parsing a string"
  | .keyMustBeString => "key must be a string"
  | .loneSurrogate => "lone leading surrogate in hex escape"
  | .endOfHexEscape => "unexpected end of hex escape"
  | .trailingComma => "trailing comma"
  | .trailingCharacters => "trailing characters"
  | .recursionLimit => "recursion limit exceeded"
  | .invalidType found expected => "invalid type: " ++ found.text ++ ", expected " ++ expected
  | .invalidLength length expected =>
    "invalid length " ++ toString length ++ ", expected " ++ expected
  | .missingField name => "missing field " ++ marked name
  | .duplicateField name => "duplicate field " ++ marked name
  | .unknownVariant name choices =>
    "unknown variant " ++ marked name ++ ", " ++ choiceText choices

end AnchoredMetadata.Json
