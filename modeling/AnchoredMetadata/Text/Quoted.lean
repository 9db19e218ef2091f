import AnchoredMetadata.Text.Hex
import AnchoredMetadata.Text.Unprintable

/-!
# Quoted text

Text between double quotes, as diagnostics show it. Quotes and backslashes are
escaped, and so is every character without a picture.
-/

namespace AnchoredMetadata.Text

/-- A character inside quotes. -/
def quotedChar (c : Char) : List Char :=
  if c = '"' then ['\\', '"']
  else if c = '\\' then ['\\', '\\']
  else if c = '\n' then ['\\', 'n']
  else if c = '\r' then ['\\', 'r']
  else if c = '\t' then ['\\', 't']
  else if c = '\x00' then ['\\', '0']
  else if isUnprintable c then ['\\', 'u', '\x7b'] ++ Nat.toDigits 16 c.toNat ++ ['\x7d']
  else [c]

/-- A text between quotes. -/
def quoted (s : String) : String :=
  String.ofList ('"' :: s.toList.flatMap quotedChar ++ ['"'])

end AnchoredMetadata.Text
