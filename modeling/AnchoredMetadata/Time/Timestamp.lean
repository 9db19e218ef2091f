import AnchoredMetadata.Time.Instant

/-!
# Timestamps

Reading instants in the form `2030-06-01T00:00:00.5+02:00`: a date, a time of
day with an optional fraction, and `Z` or an offset from UTC.
-/

namespace AnchoredMetadata.Time

/-- The value of a decimal digit. -/
def digit? (c : Char) : Option Nat :=
  if '0' ≤ c && c ≤ '9' then some (c.toNat - 48) else none

/-- The number written by decimal digits only. -/
def number? (cs : List Char) : Option Nat :=
  if cs.isEmpty then none
  else cs.foldlM (fun n c => (digit? c).map (n * 10 + ·)) 0

/-- The sign and the digits of an offset such as `+02:00`, in seconds. -/
def offset? : List Char → Option Int
  | ['Z'] => some 0
  | ['z'] => some 0
  | sign :: h₁ :: h₂ :: ':' :: rest => do
    let seconds := (← number? [h₁, h₂]) * 3600 + (← number? rest) * 60
    if sign = '+' then some seconds
    else if sign = '-' then some (-seconds)
    else none
  | _ => none

/-- Nanoseconds from the digits of a fraction; digits after the ninth are dropped. -/
def fraction? (cs : List Char) : Option Nat :=
  number? ((cs ++ List.replicate 9 '0').take 9)

/-- Read a timestamp. -/
def Instant.ofText? (s : String) : Option Instant :=
  match s.toList with
  | y₁ :: y₂ :: y₃ :: y₄ :: '-' :: m₁ :: m₂ :: '-' :: d₁ :: d₂ :: _ ::
      h₁ :: h₂ :: ':' :: i₁ :: i₂ :: ':' :: s₁ :: s₂ :: rest => do
    let date : Date :=
      ⟨(← number? [y₁, y₂, y₃, y₄]), ← number? [m₁, m₂], ← number? [d₁, d₂]⟩
    let base := Instant.ofParts date (← number? [h₁, h₂]) (← number? [i₁, i₂])
      (← number? [s₁, s₂])
    let (fraction, zone) ← match rest with
      | '.' :: rest =>
        (fraction? (rest.takeWhile Char.isDigit)).map fun n => (n, rest.dropWhile Char.isDigit)
      | _ => some (0, rest)
    let offset ← offset? zone
    if date.isValid then some ⟨base.nanoseconds + fraction - offset * 1000000000⟩ else none
  | _ => none

end AnchoredMetadata.Time
