import AnchoredMetadata.Text.Hex
import AnchoredMetadata.Toml.Space

/-!
# Texts in TOML

A text stands between quotes, on one line or between triple quotes on several.
Between double quotes a backslash opens an escape; single quotes enclose the
text as it is. A text is written in the first form that shows it without
escapes, in an order that prefers double quotes and a single line.
-/

namespace AnchoredMetadata.Toml

/-! ## Reading -/

/-- The character with a code in hexadecimal digits. -/
def codePoint? (digits : List Char) : Option Char := do
  let values ← digits.mapM Text.hexValue?
  let code := values.foldl (fun n d => n * 16 + d) 0
  if code.isValidChar then return Char.ofNat code else none

/-- The character for a letter after a backslash. -/
def escaped? : Char → Option Char
  | 'b' => some '\x08'
  | 't' => some '\t'
  | 'n' => some '\n'
  | 'f' => some '\x0c'
  | 'r' => some '\r'
  | '"' => some '"'
  | '\\' => some '\\'
  | _ => none

/-- Put a character in front of what was read. -/
def push (c : Option Char) (read : Option (List Char × List Char)) :
    Option (List Char × List Char) := do
  let c ← c
  let (text, rest) ← read
  return (c :: text, rest)

/-- Take off a text on one line after its double quote. -/
def readBasic : Reader (List Char)
  | [] => none
  | '"' :: rest => some ([], rest)
  | '\\' :: 'u' :: a :: b :: c :: d :: rest => push (codePoint? [a, b, c, d]) (readBasic rest)
  | '\\' :: 'U' :: a :: b :: c :: d :: e :: f :: g :: h :: rest =>
    push (codePoint? [a, b, c, d, e, f, g, h]) (readBasic rest)
  | '\\' :: c :: rest => push (escaped? c) (readBasic rest)
  | c :: rest => if isPlain c && c ≠ '\\' then push (some c) (readBasic rest) else none

/-- Take off a text on one line after its single quote. -/
def readLiteral : Reader (List Char)
  | [] => none
  | '\'' :: rest => some ([], rest)
  | c :: rest => if isPlain c then push (some c) (readLiteral rest) else none

/-- Quotes right before the closing ones belong to the text; there are at most two. -/
def closing (quote : Char) : List Char → List Char × List Char
  | a :: b :: rest =>
    if a = quote && b = quote then ([quote, quote], rest)
    else if a = quote then ([quote], b :: rest)
    else ([], a :: b :: rest)
  | [a] => if a = quote then ([quote], []) else ([], [a])
  | [] => ([], [])

/-- What a backslash before the end of a line does: everything up to the next other character is
skipped. -/
inductive Fold where
  /-- Nothing is skipped. -/
  | none
  /-- The end of the line must come. -/
  | toNewline
  /-- The end of the line has come. -/
  | past
  deriving DecidableEq

/-- Take off a text on several lines after its double quotes. -/
def readBasicLines : Fold → Reader (List Char)
  | _, [] => none
  | .toNewline, '\n' :: rest => readBasicLines .past rest
  | .toNewline, '\r' :: '\n' :: rest => readBasicLines .past rest
  | .toNewline, c :: rest => if isSpace c then readBasicLines .toNewline rest else none
  | .past, '\n' :: rest => readBasicLines .past rest
  | .past, '\r' :: '\n' :: rest => readBasicLines .past rest
  | .past, ' ' :: rest => readBasicLines .past rest
  | .past, '\t' :: rest => readBasicLines .past rest
  | _, '"' :: '"' :: '"' :: rest => some (closing '"' rest)
  | _, '\n' :: rest => push (some '\n') (readBasicLines .none rest)
  | _, '\r' :: '\n' :: rest => push (some '\n') (readBasicLines .none rest)
  | _, '\\' :: 'u' :: a :: b :: c :: d :: rest =>
    push (codePoint? [a, b, c, d]) (readBasicLines .none rest)
  | _, '\\' :: 'U' :: a :: b :: c :: d :: e :: f :: g :: h :: rest =>
    push (codePoint? [a, b, c, d, e, f, g, h]) (readBasicLines .none rest)
  | _, '\\' :: '\n' :: rest => readBasicLines .past rest
  | _, '\\' :: '\r' :: '\n' :: rest => readBasicLines .past rest
  | _, '\\' :: c :: rest =>
    if isSpace c then readBasicLines .toNewline rest
    else push (escaped? c) (readBasicLines .none rest)
  | _, c :: rest =>
    if isPlain c && c ≠ '\\' then push (some c) (readBasicLines .none rest) else none

/-- Take off a text on several lines after its single quotes. -/
def readLiteralLines : Reader (List Char)
  | [] => none
  | '\'' :: '\'' :: '\'' :: rest => some (closing '\'' rest)
  | '\n' :: rest => push (some '\n') (readLiteralLines rest)
  | '\r' :: '\n' :: rest => push (some '\n') (readLiteralLines rest)
  | c :: rest => if isPlain c then push (some c) (readLiteralLines rest) else none

/-- A line that ends right after the opening quotes does not belong to the text. -/
def dropFirstNewline (cs : List Char) : List Char := (newline? cs).getD cs

/-- Take off a text with its quotes. -/
def readText : Reader (List Char)
  | '"' :: '"' :: '"' :: rest => readBasicLines .none (dropFirstNewline rest)
  | '"' :: rest => readBasic rest
  | '\'' :: '\'' :: '\'' :: rest => readLiteralLines (dropFirstNewline rest)
  | '\'' :: rest => readLiteral rest
  | _ => none

/-! ## Writing -/

/-- The length of the longest run of a character, given the length of the run before. -/
def longestRun (quote : Char) (run : Nat) : List Char → Nat
  | [] => run
  | c :: rest => if c = quote then longestRun quote (run + 1) rest
    else max run (longestRun quote 0 rest)

/-- Whether a character can only be written as an escape. -/
def needsEscape (c : Char) : Bool := !isPlain c && c ≠ '\n'

/-- An escape with the code of a character below 256. -/
def codeEscape (c : Char) : List Char :=
  ['\\', 'u', '0', '0', Text.hexDigitUpper (c.toNat / 16), Text.hexDigitUpper (c.toNat % 16)]

/-- A character between double quotes, unless it is a quote. -/
def writeChar (c : Char) : List Char :=
  if c = '\x08' then ['\\', 'b']
  else if c = '\t' then ['\\', 't']
  else if c = '\x0c' then ['\\', 'f']
  else if c = '\r' then ['\\', 'r']
  else if c = '\\' then ['\\', '\\']
  else if isPlain c then [c]
  else codeEscape c

/-- Characters between double quotes on one line. -/
def writeBasic : List Char → List Char
  | [] => []
  | c :: rest =>
    (if c = '"' then ['\\', '"'] else if c = '\n' then ['\\', 'n'] else writeChar c) ++
      writeBasic rest

/-- Characters between double quotes on several lines; every third quote in a row is escaped.
`run` counts the quotes before. -/
def writeBasicLines : (run : Nat) → List Char → List Char
  | _, [] => []
  | run, c :: rest =>
    if c = '"' then
      if 2 ≤ run then ['\\', '"'] ++ writeBasicLines 0 rest
      else '"' :: writeBasicLines (run + 1) rest
    else if c = '\n' then '\n' :: writeBasicLines 0 rest
    else writeChar c ++ writeBasicLines 0 rest

/-- Characters between triple quotes. A text of several lines starts on a line of its own. -/
def inTriple (quote : Char) (several : Bool) (content : List Char) : List Char :=
  List.replicate 3 quote ++ (if several then ['\n'] else []) ++ content ++ List.replicate 3 quote

/-- A text with its quotes. -/
def writeText (cs : List Char) : List Char :=
  let several := cs.contains '\n'
  let plain := !cs.any needsEscape
  let straight := plain && !cs.contains '\\'
  let doubles := longestRun '"' 0 cs
  let singles := longestRun '\'' 0 cs
  if straight && doubles = 0 && !several then '"' :: writeBasic cs ++ ['"']
  else if plain && singles = 0 && !several then '\'' :: cs ++ ['\'']
  else if straight && doubles ≤ 2 then inTriple '"' several (writeBasicLines 0 cs)
  else if plain && singles ≤ 2 then inTriple '\'' several cs
  else if several then inTriple '"' several (writeBasicLines 0 cs)
  else '"' :: writeBasic cs ++ ['"']

end AnchoredMetadata.Toml
