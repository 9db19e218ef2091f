/-!
# Similar words

How alike two words are, between zero and one. Two characters match if they are
the same and stand about as far from the start of their words; of the matches
counts how many there are and how many are out of order.
-/

namespace AnchoredMetadata.Text

/-- Take a character out of a word whose places are still free, from a place on and before another.
Give its place. -/
def claim? (c : Char) (least most : Nat) (word : List (Char × Bool)) : Option Nat :=
  word.zipIdx.findSome? fun ((d, free), i) =>
    if least ≤ i && i < most && free && c = d then some i else none

/-- Match the characters of a word, from the place `i` on, with those of another. Give the matched
characters and what is free in the other word. -/
def matchChars (range : Nat) : List Char → (i : Nat) → List (Char × Bool) →
    List Char × List (Char × Bool)
  | [], _, word => ([], word)
  | c :: rest, i, word =>
    match claim? c (i - range) (min word.length (i + range + 1)) word with
    | some j =>
      let (matched, word) := matchChars range rest (i + 1) (word.set j (c, false))
      (c :: matched, word)
    | none => matchChars range rest (i + 1) word

/-- How alike two words are. -/
def similarity (a b : List Char) : Float :=
  if a.isEmpty && b.isEmpty then 1.0
  else if a.isEmpty || b.isEmpty then 0.0
  else
    let range := max a.length b.length / 2 - 1
    let (matched, word) := matchChars range a 0 (b.map (·, true))
    let others := (word.filter fun (_, free) => !free).map Prod.fst
    let displaced := (matched.zip others).countP fun (c, d) => c ≠ d
    let m := matched.length
    if m = 0 then 0.0
    else
      (m.toFloat / a.length.toFloat + m.toFloat / b.length.toFloat +
        (m - displaced / 2).toFloat / m.toFloat) / 3.0

/-- The word most like another of those that are alike enough; of several the last. -/
def mostSimilar? (word : List Char) (candidates : List (List Char)) : Option (List Char) :=
  (candidates.foldl (fun best c =>
    let s := similarity word c
    if s > 0.7 then
      match best with
      | some (t, _) => if s < t then best else some (s, c)
      | none => some (s, c)
    else best) (none : Option (Float × List Char))).map Prod.snd

end AnchoredMetadata.Text
