import AnchoredMetadata.Time.Civil

/-!
# Instants and durations

An instant is a count of nanoseconds from the start of 1970 in UTC, a duration
a count of nanoseconds that is never negative. Their written forms show a
fraction only when it is not zero, in groups of three digits.
-/

namespace AnchoredMetadata.Time

/-- A point in time. -/
structure Instant where
  /-- Nanoseconds since 1970-01-01T00:00:00Z. -/
  nanoseconds : Int
  deriving DecidableEq, Repr

/-- A length of time. -/
structure Duration where
  /-- The length in nanoseconds. -/
  nanoseconds : Nat
  deriving DecidableEq, Repr

namespace Instant

instance : LE Instant := ⟨fun a b => a.nanoseconds ≤ b.nanoseconds⟩
instance : LT Instant := ⟨fun a b => a.nanoseconds < b.nanoseconds⟩
instance (a b : Instant) : Decidable (a ≤ b) :=
  inferInstanceAs (Decidable (a.nanoseconds ≤ b.nanoseconds))
instance (a b : Instant) : Decidable (a < b) :=
  inferInstanceAs (Decidable (a.nanoseconds < b.nanoseconds))

/-- The earlier of two instants. -/
def earlier (a b : Instant) : Instant := if b < a then b else a

/-- The instant a number of whole seconds after the start of 1970. -/
def ofSeconds (s : Int) : Instant := ⟨s * 1000000000⟩

/-- The instant a duration later. -/
def after (t : Instant) (d : Duration) : Instant := ⟨t.nanoseconds + d.nanoseconds⟩

/-- The time from `start` until `t`; zero if `t` comes first. -/
def since (t start : Instant) : Duration := ⟨(t.nanoseconds - start.nanoseconds).toNat⟩

theorem le_def (a b : Instant) : a ≤ b ↔ a.nanoseconds ≤ b.nanoseconds := Iff.rfl

theorem lt_def (a b : Instant) : a < b ↔ a.nanoseconds < b.nanoseconds := Iff.rfl

end Instant

namespace Duration

instance : LE Duration := ⟨fun a b => a.nanoseconds ≤ b.nanoseconds⟩
instance : LT Duration := ⟨fun a b => a.nanoseconds < b.nanoseconds⟩
instance (a b : Duration) : Decidable (a ≤ b) :=
  inferInstanceAs (Decidable (a.nanoseconds ≤ b.nanoseconds))
instance (a b : Duration) : Decidable (a < b) :=
  inferInstanceAs (Decidable (a.nanoseconds < b.nanoseconds))

/-- No time at all. -/
def zero : Duration := ⟨0⟩

/-- A number of whole seconds. -/
def ofSeconds (s : Nat) : Duration := ⟨s * 1000000000⟩

/-- A number of milliseconds. -/
def ofMilliseconds (ms : Nat) : Duration := ⟨ms * 1000000⟩

/-- The shorter of two durations. -/
def shorter (a b : Duration) : Duration := if b < a then b else a

/-- The longer of two durations. -/
def longer (a b : Duration) : Duration := if a < b then b else a

theorem le_def (a b : Duration) : a ≤ b ↔ a.nanoseconds ≤ b.nanoseconds := Iff.rfl

theorem shorter_nanoseconds (a b : Duration) :
    (shorter a b).nanoseconds = min a.nanoseconds b.nanoseconds := by
  unfold shorter
  by_cases h : b < a
  · have : b.nanoseconds < a.nanoseconds := h
    rw [if_pos h]
    omega
  · have : ¬ b.nanoseconds < a.nanoseconds := h
    rw [if_neg h]
    omega

theorem longer_nanoseconds (a b : Duration) :
    (longer a b).nanoseconds = max a.nanoseconds b.nanoseconds := by
  unfold longer
  by_cases h : a < b
  · have : a.nanoseconds < b.nanoseconds := h
    rw [if_pos h]
    omega
  · have : ¬ a.nanoseconds < b.nanoseconds := h
    rw [if_neg h]
    omega

end Duration

/-- A number in decimal digits, filled with zeros on the left to a width. -/
def padded (width n : Nat) : String :=
  let digits := toString n
  String.ofList (List.replicate (width - digits.length) '0') ++ digits

/-- A duration as seconds with nine places. -/
def Duration.text (d : Duration) : String :=
  s!"{d.nanoseconds / 1000000000}." ++ padded 9 (d.nanoseconds % 1000000000)

/-- A whole number of units and a fraction with some places, whose zeros at the end are dropped. -/
def unitsText (units places fraction : Nat) : String :=
  let digits := ((padded places fraction).toList.reverse.dropWhile (· = '0')).reverse
  toString units ++ (if digits.isEmpty then "" else "." ++ String.ofList digits)

/-- A duration in its largest unit, such as `1.5s` or `20ms`. -/
def Duration.shortText (d : Duration) : String :=
  let n := d.nanoseconds
  if 1000000000 ≤ n then unitsText (n / 1000000000) 9 (n % 1000000000) ++ "s"
  else if 1000000 ≤ n then unitsText (n / 1000000) 6 (n % 1000000) ++ "ms"
  else if 1000 ≤ n then unitsText (n / 1000) 3 (n % 1000) ++ "µs"
  else toString n ++ "ns"

/-- A fraction of a second in nanoseconds: nothing, or three, six or nine places. -/
def fractionText (nanoseconds : Nat) : String :=
  if nanoseconds = 0 then ""
  else if nanoseconds % 1000000 = 0 then "." ++ padded 3 (nanoseconds / 1000000)
  else if nanoseconds % 1000 = 0 then "." ++ padded 6 (nanoseconds / 1000)
  else "." ++ padded 9 nanoseconds

/-- A year in four digits; outside of 0 to 9999 with its sign. -/
def yearText (y : Int) : String :=
  if 0 ≤ y && y ≤ 9999 then padded 4 y.toNat
  else (if y < 0 then "-" else "+") ++ padded 4 y.natAbs

/-- The date of an instant and its time of day. -/
def Instant.parts (t : Instant) : String × String :=
  let seconds := t.nanoseconds / 1000000000
  let fraction := (t.nanoseconds % 1000000000).toNat
  let date := Date.ofDays (seconds / 86400)
  let second := (seconds % 86400).toNat
  (yearText date.year ++ "-" ++ padded 2 date.month ++ "-" ++ padded 2 date.day,
    padded 2 (second / 3600) ++ ":" ++ padded 2 (second / 60 % 60) ++ ":" ++
      padded 2 (second % 60) ++ fractionText fraction)

/-- An instant in the form `2099-01-01T00:00:00Z`. -/
def Instant.text (t : Instant) : String :=
  let (date, time) := t.parts
  date ++ "T" ++ time ++ "Z"

/-- An instant in the form `2099-01-01 00:00:00 UTC`. -/
def Instant.spokenText (t : Instant) : String :=
  let (date, time) := t.parts
  date ++ " " ++ time ++ " UTC"

/-- The instant at a date and a time of day in UTC. -/
def Instant.ofParts (d : Date) (hour minute second : Nat) : Instant :=
  .ofSeconds (d.toDays * 86400 + (hour * 3600 + minute * 60 + second : Nat))

end AnchoredMetadata.Time
