/-!
# Faults of JSON documents

What is wrong with a document: its form, or a value that is not of the kind
its place asks for.
-/

namespace AnchoredMetadata.Json

/-- A value as a report names it. -/
inductive Found where
  /-- The null value. -/
  | null
  /-- A truth value. -/
  | boolean (b : Bool)
  /-- A whole number. -/
  | integer (n : Int)
  /-- Another number, in its shortest decimal form. -/
  | float (text : String)
  /-- A text. -/
  | string (s : String)
  /-- An array. -/
  | sequence
  /-- An object. -/
  | map
  /-- A variant without content. -/
  | unitVariant
  deriving DecidableEq, Repr

/-- What is wrong with a document. -/
inductive Fault where
  /-- The document ends inside an array. -/
  | endInList
  /-- The document ends inside an object. -/
  | endInObject
  /-- The document ends inside a string. -/
  | endInString
  /-- The document ends where a value goes on or should stand. -/
  | endInValue
  /-- A key is not followed by a colon. -/
  | expectedColon
  /-- An array goes on in another way. -/
  | expectedListCommaOrEnd
  /-- An object goes on in another way. -/
  | expectedObjectCommaOrEnd
  /-- A literal is spelled otherwise. -/
  | expectedIdent
  /-- No value stands here. -/
  | expectedValue
  /-- An unknown escape. -/
  | invalidEscape
  /-- A number is spelled otherwise. -/
  | invalidNumber
  /-- A number is too large. -/
  | numberOutOfRange
  /-- A string is not UTF-8. -/
  | invalidUnicode
  /-- A control character in a string. -/
  | controlCharacter
  /-- A key that is not a string. -/
  | keyMustBeString
  /-- A surrogate without its leading half. -/
  | loneSurrogate
  /-- A leading surrogate without its other half. -/
  | endOfHexEscape
  /-- A comma before a closing bracket. -/
  | trailingComma
  /-- Something after the end. -/
  | trailingCharacters
  /-- Too many brackets inside one another. -/
  | recursionLimit
  /-- A value of another kind. -/
  | invalidType (found : Found) (expected : String)
  /-- An array that is too short. -/
  | invalidLength (length : Nat) (expected : String)
  /-- A field without which there is no record. -/
  | missingField (name : String)
  /-- A field given twice. -/
  | duplicateField (name : String)
  /-- A name outside of a choice. -/
  | unknownVariant (name : String) (choices : List String)
  deriving DecidableEq, Repr

end AnchoredMetadata.Json
