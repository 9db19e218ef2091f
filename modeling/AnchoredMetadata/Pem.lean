import AnchoredMetadata.Base64
import AnchoredMetadata.Text.Blank
import AnchoredMetadata.Text.Utf8

/-!
# Textual bundles

Blocks of base64 between a line that begins a block and a line that ends it.
Lines outside of blocks are skipped. Blocks are read one after another, so a
fault shows only after the blocks before it.
-/

namespace AnchoredMetadata.Pem

open Text

/-- Why a block cannot be read. -/
inductive Error where
  /-- The block has no end. -/
  | incomplete
  /-- The line that begins the block is not closed by five dashes. -/
  | invalidHeader
  /-- The body is not base64. -/
  | invalidBody
  /-- A line is not UTF-8. -/
  | notUtf8
  deriving DecidableEq, Repr

/-- The wording of a fault. -/
def Error.message : Error → String
  | .incomplete => "incomplete PEM"
  | .invalidHeader => "invalid header"
  | .invalidBody => "base64 decode error"
  | .notUtf8 => "IO error: stream did not contain valid UTF-8"

/-- A block of some kind with its content. -/
structure Block where
  /-- What the block holds, as its first line says. -/
  label : List Char
  /-- The decoded body. -/
  content : List UInt8
  deriving DecidableEq, Repr

/-- How a line that begins a block starts. -/
def beginMark : List Char := "-----BEGIN ".toList

/-- How a line that ends a block starts. -/
def endMark : List Char := "-----END ".toList

/-- What closes the label of a block. -/
def dashes : List Char := "-----".toList

/-- Whether a text contains another. -/
def hasInfix (part : List Char) : List Char → Bool
  | [] => part.isEmpty
  | c :: rest => part.isPrefixOf (c :: rest) || hasInfix part rest

/-- Cut bytes into lines; each keeps its line feed. -/
def splitLines : List UInt8 → List (List UInt8)
  | [] => []
  | b :: rest =>
    if b = 10 then [b] :: splitLines rest
    else
      match splitLines rest with
      | [] => [[b]]
      | line :: lines => (b :: line) :: lines

/-- The label on a line that begins a block, if the line is closed. -/
def label? (line : List Char) : Option (List Char) :=
  let rest := line.drop beginMark.length
  if hasInfix dashes rest then some (rest.takeWhile (· ≠ '-')) else none

/-- The block that a label and body lines make up. -/
def block? (label : List Char) (body : List Char) : Except Error Block :=
  match Base64.decodeConcatenated? (utf8Encode body) with
  | some content => .ok ⟨label, content⟩
  | none => .error .invalidBody

/-- Where a reader of lines stands. -/
inductive State where
  /-- Between blocks. -/
  | outside
  /-- In a block, with its label and the body so far. -/
  | inside (label body : List Char)
  deriving DecidableEq, Repr

/-- The blocks of a bundle, read line by line; the first fault ends the list. -/
def blocksFrom : State → List (List UInt8) → List (Except Error Block)
  | .outside, [] => []
  | .inside _ _, [] => [.error .incomplete]
  | state, line :: lines =>
    match utf8Decode? line with
    | none => [.error .notUtf8]
    | some text =>
      match state with
      | .outside =>
        if beginMark.isPrefixOf text then
          match label? text with
          | some label => blocksFrom (.inside label []) lines
          | none => [.error .invalidHeader]
        else blocksFrom .outside lines
      | .inside label body =>
        if endMark.isPrefixOf text then
          match block? label body with
          | .ok block => .ok block :: blocksFrom .outside lines
          | .error e => [.error e]
        else blocksFrom (.inside label (body ++ trimEnd text)) lines

/-- The blocks of a bundle in file order, up to the first fault. -/
def blocks (bundle : List UInt8) : List (Except Error Block) :=
  blocksFrom .outside (splitLines bundle)

end AnchoredMetadata.Pem
