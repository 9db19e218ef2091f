import AnchoredMetadata.Der
import AnchoredMetadata.Time.Instant

/-!
# Validity periods

The two times of a certificate, each in one of two written forms: two-digit
years with an optional offset from UTC, or four-digit years in UTC with an
optional fraction of up to three digits, which is dropped.
-/

namespace AnchoredMetadata.Certificate

open Der Time

/-- The window in which a certificate is valid; both ends belong to it. -/
structure Validity where
  /-- The first valid instant. -/
  notBefore : Instant
  /-- The last valid instant. -/
  notAfter : Instant
  deriving DecidableEq, Repr

/-- Whether an instant lies in the window. -/
def Validity.contains (v : Validity) (t : Instant) : Bool :=
  decide (v.notBefore ≤ t) && decide (t ≤ v.notAfter)

namespace Validity

/-- The tag of a time with a two-digit year. -/
def shortTimeTag : Nat := 23
/-- The tag of a time with a four-digit year. -/
def longTimeTag : Nat := 24

/-- The number written by two decimal digits. -/
def pair? (a b : UInt8) : Option Nat :=
  if 48 ≤ a && a ≤ 57 && 48 ≤ b && b ≤ 57 then some ((a.toNat - 48) * 10 + (b.toNat - 48))
  else none

/-- An offset from UTC in seconds: at most 25 hours and 59 minutes. The minutes take the sign
of the hours, so that they count forward when there are no hours. -/
def zone? : List UInt8 → Option Int
  | [90] => some 0
  | [sign, h₁, h₂, m₁, m₂] => do
    let hours ← pair? h₁ h₂
    let minutes ← pair? m₁ m₂
    if 25 < hours || 59 < minutes then none
    else
      let seconds : Int := hours * 3600 + minutes * 60
      if sign = 43 then some seconds
      else if sign = 45 then some (if hours = 0 then seconds else -seconds)
      else none
  | _ => none

/-- The instant of a date and time of day that exist, at an offset from UTC. -/
def instant? (date : Date) (hour minute second : Nat) (zone : Int) : Option Instant :=
  if date.isValid && hour ≤ 23 && minute ≤ 59 && second ≤ 59 then
    some ⟨(Instant.ofParts date hour minute second).nanoseconds - zone * 1000000000⟩
  else none

/-- Seconds, if two digits stand there, and what follows. -/
def splitSeconds : List UInt8 → Option (Nat × List UInt8)
  | a :: b :: rest => (pair? a b).map (·, rest)
  | rest => some (0, rest)

/-- Read a time with a two-digit year; years from 50 on belong to the twentieth century. -/
def shortTime? (content : List UInt8) : Option Instant :=
  match content with
  | y₁ :: y₂ :: m₁ :: m₂ :: d₁ :: d₂ :: h₁ :: h₂ :: i₁ :: i₂ :: rest => do
    let year ← pair? y₁ y₂
    let date : Date := ⟨if 50 ≤ year then 1900 + year else 2000 + year, ← pair? m₁ m₂,
      ← pair? d₁ d₂⟩
    let hour ← pair? h₁ h₂
    let minute ← pair? i₁ i₂
    let (second, rest) ← splitSeconds rest
    instant? date hour minute second (← zone? rest)
  | _ => none

/-- Whether `Z` stands alone, or after a point and at most three digits. -/
def endsInUtc : List UInt8 → Bool
  | [90] => true
  | 46 :: rest =>
    let digits := rest.takeWhile fun b => 48 ≤ b && b ≤ 57
    digits.length ≤ 3 && rest.drop digits.length == [90]
  | _ => false

/-- Read a time with a four-digit year. -/
def longTime? (content : List UInt8) : Option Instant :=
  match content with
  | y₁ :: y₂ :: y₃ :: y₄ :: m₁ :: m₂ :: d₁ :: d₂ :: h₁ :: h₂ :: i₁ :: i₂ :: rest => do
    let date : Date := ⟨(← pair? y₁ y₂) * 100 + (← pair? y₃ y₄), ← pair? m₁ m₂, ← pair? d₁ d₂⟩
    let hour ← pair? h₁ h₂
    let minute ← pair? i₁ i₂
    let (second, rest) ← splitSeconds rest
    if endsInUtc rest then instant? date hour minute second 0 else none
  | _ => none

/-- Take off a time of either form. -/
def readTime : Reader Instant := fun bytes => do
  let (e, rest) ← readElement bytes
  if e.tag = shortTimeTag then (shortTime? e.content).map (·, rest)
  else if e.tag = longTimeTag then (longTime? e.content).map (·, rest)
  else none

/-- Take off a validity period. -/
def read : Reader Validity :=
  readSequence fun bytes => do
    let (notBefore, rest) ← readTime bytes
    let (notAfter, rest) ← readTime rest
    some (⟨notBefore, notAfter⟩, rest)

end Validity

end AnchoredMetadata.Certificate
