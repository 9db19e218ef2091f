/-!
# UTF-8

Text as bytes. Decoding accepts exactly the well-formed sequences: no overlong
form, no surrogate, nothing above `U+10FFFF`.
-/

namespace AnchoredMetadata.Text

/-- The bytes of a text. -/
def utf8Encode (cs : List Char) : List UInt8 := cs.flatMap String.utf8EncodeChar

/-- The bytes of a string. -/
def utf8 (s : String) : List UInt8 := utf8Encode s.toList

/-- Whether a byte continues a sequence. -/
def isContinuation (b : UInt8) : Bool := b &&& 0xC0 == 0x80

/-- The six payload bits of a continuation byte. -/
def payload (b : UInt8) : Nat := (b &&& 0x3F).toNat

/-- The scalar value in a sequence of two bytes, if it is well formed. -/
def scalar2 (a b : UInt8) : Option Char :=
  if 0xC2 ≤ a && a ≤ 0xDF && isContinuation b then
    some (Char.ofNat ((a &&& 0x1F).toNat * 64 + payload b))
  else none

/-- The scalar value in a sequence of three bytes, if it is well formed. -/
def scalar3 (a b c : UInt8) : Option Char :=
  if 0xE0 ≤ a && a ≤ 0xEF && isContinuation b && isContinuation c then
    let n := (a &&& 0x0F).toNat * 4096 + payload b * 64 + payload c
    if n < 0x800 || (0xD800 ≤ n && n ≤ 0xDFFF) then none else some (Char.ofNat n)
  else none

/-- The scalar value in a sequence of four bytes, if it is well formed. -/
def scalar4 (a b c d : UInt8) : Option Char :=
  if 0xF0 ≤ a && a ≤ 0xF4 && isContinuation b && isContinuation c && isContinuation d then
    let n := (a &&& 0x07).toNat * 262144 + payload b * 4096 + payload c * 64 + payload d
    if n < 0x10000 || 0x10FFFF < n then none else some (Char.ofNat n)
  else none

/-- Read well-formed UTF-8, or nothing if some sequence is not. -/
def utf8Decode? : List UInt8 → Option (List Char)
  | [] => some []
  | a :: rest =>
    if a < 0x80 then (utf8Decode? rest).map (Char.ofNat a.toNat :: ·)
    else match rest with
      | [] => none
      | b :: rest =>
        match scalar2 a b with
        | some ch => (utf8Decode? rest).map (ch :: ·)
        | none =>
          match rest with
          | [] => none
          | c :: rest =>
            match scalar3 a b c with
            | some ch => (utf8Decode? rest).map (ch :: ·)
            | none =>
              match rest with
              | [] => none
              | d :: rest =>
                match scalar4 a b c d with
                | some ch => (utf8Decode? rest).map (ch :: ·)
                | none => none

/-- The character that stands for bytes that are no text. -/
def replacement : Char := '\uFFFD'

/-- Whether a byte may come second in a sequence of three or four. -/
def maySecond (lead b : UInt8) : Bool :=
  let low : UInt8 := if lead = 0xE0 then 0xA0 else if lead = 0xF0 then 0x90 else 0x80
  let high : UInt8 := if lead = 0xED then 0x9F else if lead = 0xF4 then 0x8F else 0xBF
  low ≤ b && b ≤ high

/-- Read UTF-8 and replace what is not well formed: every longest start of a sequence, or else
every byte, by one replacement character. -/
def utf8Decode : List UInt8 → List Char
  | [] => []
  | a :: rest =>
    if a < 0x80 then Char.ofNat a.toNat :: utf8Decode rest
    else match rest with
      | [] => [replacement]
      | b :: more =>
        match scalar2 a b with
        | some ch => ch :: utf8Decode more
        | none =>
          if !(0xE0 ≤ a && a ≤ 0xF4 && maySecond a b) then replacement :: utf8Decode (b :: more)
          else match more with
            | [] => [replacement]
            | c :: beyond =>
              match scalar3 a b c with
              | some ch => ch :: utf8Decode beyond
              | none =>
                if !(0xF0 ≤ a && isContinuation c) then replacement :: utf8Decode (c :: beyond)
                else match beyond with
                  | [] => [replacement]
                  | d :: end4 =>
                    match scalar4 a b c d with
                    | some ch => ch :: utf8Decode end4
                    | none => replacement :: utf8Decode (d :: end4)

@[simp] theorem utf8Encode_nil : utf8Encode [] = [] := rfl

@[simp] theorem utf8Encode_append (a b : List Char) :
    utf8Encode (a ++ b) = utf8Encode a ++ utf8Encode b := by
  simp [utf8Encode]

end AnchoredMetadata.Text
