import AnchoredMetadata.Url

/-!
# Metadata locations

The metadata of an entity is published below a common base, under the
identifier of the entity as a single path segment. The segment is the form
encoding of the identifier. The encodings that a path would drop or resolve get
a tilde in front; a tilde of the identifier itself is always encoded, so
different identifiers have different segments.
-/

namespace AnchoredMetadata.Location

/-- Whether a segment would not survive in a path. -/
def isReserved (segment : List Char) : Bool :=
  segment.isEmpty || segment = ['.'] || segment = ['.', '.']

/-- The path segment of an entity. -/
def segment (id : String) : List Char :=
  let encoded := Url.formEncode (Text.utf8 id)
  if isReserved encoded then '~' :: encoded else encoded

/-- The path segment of an entity as text. -/
def resource (id : String) : String := String.ofList (segment id)

/-- The bytes of the identifier that a segment stands for. -/
def identifierBytes? : List Char → Option (List UInt8)
  | '~' :: encoded => Url.formDecode? encoded
  | encoded => Url.formDecode? encoded

/-- Drop slashes at the end. -/
def dropSlashes (cs : List Char) : List Char := (cs.reverse.dropWhile (· = '/')).reverse

/-- The location of an entity's metadata below a base. -/
def ofEntity (base : Url) (id : String) : Except Url.Error Url :=
  Url.readCharacters (dropSlashes base.characters ++ '/' :: segment id)

/-- The wording of a refusal. -/
def faultText (e : Url.Error) : String := "invalid metadata source uri: " ++ e.message

end AnchoredMetadata.Location
