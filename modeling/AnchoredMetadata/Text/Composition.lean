import AnchoredMetadata.Text.Composition.Table

/-!
# Composed text

The normal form of text in which marks are in canonical order and every pair of
characters that has a composite is that composite (Normalization Form C). It is
meant for text in which no character stands for another single one.
-/

namespace AnchoredMetadata.Text

/-! ## Syllables -/

/-- The two characters that a Korean syllable is composed of. -/
def syllableParts? (c : Char) : Option (Char × Char) :=
  if 0xAC00 ≤ c.toNat && c.toNat < 0xAC00 + 11172 then
    let n := c.toNat - 0xAC00
    if n % 28 = 0 then
      some (Char.ofNat (0x1100 + n / 588), Char.ofNat (0x1161 + n % 588 / 28))
    else some (Char.ofNat (0xAC00 + (n - n % 28)), Char.ofNat (0x11A7 + n % 28))
  else none

/-- The Korean syllable that two characters compose. -/
def syllable? (a b : Char) : Option Char :=
  let first := a.toNat
  let second := b.toNat
  if 0x1100 ≤ first && first < 0x1113 && 0x1161 ≤ second && second < 0x1176 then
    some (Char.ofNat (0xAC00 + ((first - 0x1100) * 21 + (second - 0x1161)) * 28))
  else if 0xAC00 ≤ first && first < 0xAC00 + 11172 && (first - 0xAC00) % 28 = 0 &&
      0x11A7 < second && second < 0x11C3 then
    some (Char.ofNat (first + (second - 0x11A7)))
  else none

/-! ## Pairs -/

/-- The two characters that a composite stands for. -/
def parts? (c : Char) : Option (Char × Char) :=
  match syllableParts? c with
  | some parts => some parts
  | none => (composites.find? fun p => p.whole = c.toNat).map fun p =>
      (Char.ofNat p.first, Char.ofNat p.second)

/-- The composite that stands for two characters. -/
def composite? (a b : Char) : Option Char :=
  match syllable? a b with
  | some c => some c
  | none => (composites.find? fun p => p.first = a.toNat && p.second = b.toNat).map fun p =>
      Char.ofNat p.whole

/-- The combining class of a character; characters that start a cluster have class zero. -/
def combiningClass (c : Char) : Nat := (valueIn? combiningClasses c).getD 0

/-! ## Taking apart and putting together -/

/-- The parts of a character, taken apart as many times as told. -/
def takeApart : Nat → Char → List Char
  | 0, c => [c]
  | n + 1, c =>
    match parts? c with
    | some (a, b) => takeApart n a ++ [b]
    | none => [c]

/-- The parts of a character; no character has more than four. -/
def decomposed (c : Char) : List Char := takeApart 3 c

/-- Put a mark among marks, after those of its class and of lower ones. -/
def insertMark (c : Char) : List Char → List Char
  | [] => [c]
  | d :: ds =>
    if combiningClass d ≠ 0 && combiningClass d < combiningClass c then d :: insertMark c ds
    else c :: d :: ds

/-- The characters with the marks of each cluster in the order of their classes. -/
def ordered : List Char → List Char
  | [] => []
  | c :: cs => if combiningClass c = 0 then c :: ordered cs else insertMark c (ordered cs)

/-- Compose a cluster: a starter, the marks that stay apart from it, latest first, and the
characters that follow. -/
def composedFrom (starter : Char) (apart : List Char) : List Char → List Char
  | [] => starter :: apart.reverse
  | c :: cs =>
    let blocked := apart.head?.any fun d => combiningClass c ≤ combiningClass d
    match if blocked then none else composite? starter c with
    | some whole => composedFrom whole apart cs
    | none =>
      if combiningClass c = 0 then starter :: apart.reverse ++ composedFrom c [] cs
      else composedFrom starter (c :: apart) cs

/-- Compose characters whose marks are in order. -/
def composedOrdered : List Char → List Char
  | [] => []
  | c :: cs => if combiningClass c = 0 then composedFrom c [] cs else c :: composedOrdered cs

/-- The composed form of a text. -/
def composed (cs : List Char) : List Char := composedOrdered (ordered (cs.flatMap decomposed))

end AnchoredMetadata.Text
