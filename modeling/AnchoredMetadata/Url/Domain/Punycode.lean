/-!
# Punycode

Text in letters, digits and hyphens. The ASCII characters come first, then a
hyphen if there are any, then for each other character, by code point and
position, the number of states between it and the one before, in a base of 36
whose thresholds follow the numbers that were written.
-/

namespace AnchoredMetadata.Url.Punycode

/-- The digit for a number below 36. -/
def digit (n : Nat) : Char := if n < 26 then Char.ofNat (97 + n) else Char.ofNat (22 + n)

/-- The number that a digit stands for. -/
def digitValue? (c : Char) : Option Nat :=
  if 'a' ≤ c && c ≤ 'z' then some (c.toNat - 97)
  else if 'A' ≤ c && c ≤ 'Z' then some (c.toNat - 65)
  else if '0' ≤ c && c ≤ '9' then some (c.toNat - 22)
  else none

/-- The least digit that does not end a number, at a place and under a bias. -/
def threshold (place bias : Nat) : Nat := min 26 (max 1 (36 * place - bias))

/-- A threshold is at least one. -/
theorem one_le_threshold (place bias : Nat) : 1 ≤ threshold place bias := by
  simp only [threshold]
  omega

/-- The bias that a reduced distance asks for. -/
def biasOf (distance : Nat) : Nat :=
  if 455 < distance then 36 + biasOf (distance / 35) else 36 * distance / (distance + 38)
termination_by distance
decreasing_by omega

/-- The bias after a distance was written, when so many characters are placed. -/
def nextBias (distance count : Nat) ( isFirst : Bool) : Nat :=
  let halved := if isFirst then distance / 700 else distance / 2
  biasOf (halved + halved / count)

/-! ## Reading -/

/-- A text that is being read. -/
structure Reading where
  /-- The characters that are placed. -/
  placed : List Char
  /-- The code point of the last character. -/
  code : Nat
  /-- The position after the last character. -/
  position : Nat
  /-- The bias. -/
  bias : Nat
  /-- Whether no distance was read. -/
  isFirst : Bool
  /-- The distance that is being read. -/
  distance : Nat
  /-- What a digit counts for. -/
  weight : Nat
  /-- The place of the next digit, from one. -/
  place : Nat

/-- Put the next character, the distance of which was read. -/
def Reading.put? (r : Reading) (distance : Nat) : Option Reading :=
  let count := r.placed.length + 1
  let state := r.position + distance
  let code := r.code + state / count
  let position := state % count
  if code.isValidChar then
    some ⟨r.placed.take position ++ Char.ofNat code :: r.placed.drop position, code, position + 1,
      nextBias distance count r.isFirst, false, 0, 1, 1⟩
  else none

/-- Read a digit. -/
def Reading.step? (r : Reading) (c : Char) : Option Reading := do
  let d ← digitValue? c
  let t := threshold r.place r.bias
  let distance := r.distance + d * r.weight
  if d < t then r.put? distance
  else return { r with distance := distance, weight := r.weight * (36 - t), place := r.place + 1 }

/-- The part before the last hyphen and the part after it. A hyphen at the start ends no
part. -/
def parts (cs : List Char) : List Char × List Char :=
  let after := cs.reverse.takeWhile (· ≠ '-')
  let before := cs.reverse.drop (after.length + 1)
  if before.isEmpty then ([], cs) else (before.reverse, after.reverse)

/-- The text that is written so. -/
def decode? (cs : List Char) : Option (List Char) := do
  let (plain, digits) := parts cs
  let r ← digits.foldlM Reading.step? ⟨plain, 128, 0, 72, true, 0, 1, 1⟩
  if r.place = 1 then return r.placed else none

/-! ## Writing -/

/-- The digits of a distance from a place on. -/
def digits (bias : Nat) (place distance : Nat) : List Char :=
  let t := threshold place bias
  if distance < t then [digit distance]
  else
    digit (t + (distance - t) % (36 - t)) :: digits bias (place + 1) ((distance - t) / (36 - t))
termination_by distance
decreasing_by
  have := one_le_threshold place bias
  exact Nat.lt_of_le_of_lt (Nat.div_le_self _ _) (by omega)

/-- A text that is being written. -/
structure Writing where
  /-- What is written. -/
  written : List Char
  /-- The distance from the last character. -/
  distance : Nat
  /-- The bias. -/
  bias : Nat
  /-- The number of characters that are placed. -/
  count : Nat

/-- Pass a character of the text while those with one code point are placed. -/
def Writing.pass (plain code : Nat) (w : Writing) (c : Char) : Writing :=
  if c.toNat < code then { w with distance := w.distance + 1 }
  else if c.toNat = code then
    ⟨w.written ++ digits w.bias 1 w.distance, 0,
      nextBias w.distance (w.count + 1) (w.count = plain), w.count + 1⟩
  else w

/-- Place the characters with one code point, after those below another. -/
def Writing.place (cs : List Char) (plain : Nat) (w : Writing) (code start : Nat) : Writing :=
  let w := { w with distance := w.distance + (code - start) * (w.count + 1) }
  let w := cs.foldl (Writing.pass plain code) w
  { w with distance := w.distance + 1 }

/-- Place the characters with some code points, in ascending order. -/
def Writing.placeAll (cs : List Char) (plain : Nat) (w : Writing) (start : Nat) :
    List Nat → Writing
  | [] => w
  | code :: codes => (w.place cs plain code start).placeAll cs plain (code + 1) codes

/-- The code points of a text that are not ASCII, each once, in ascending order. -/
def codes (cs : List Char) : List Nat :=
  ((cs.map Char.toNat).filter (128 ≤ ·)).mergeSort.eraseDups

/-- The text in letters, digits and hyphens. -/
def encode (cs : List Char) : List Char :=
  let plain := cs.filter (·.toNat < 128)
  let lead := if plain.isEmpty then [] else plain ++ ['-']
  ((⟨lead, 0, 72, plain.length⟩ : Writing).placeAll cs plain.length 128 (codes cs)).written

end AnchoredMetadata.Url.Punycode
