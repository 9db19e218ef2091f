import AnchoredMetadata.Log.Record

/-!
# Log settings

Which records are shown, and in which form. Words are read in any ASCII case.
-/

namespace AnchoredMetadata.Log

/-- The form of the output. -/
inductive Format where
  /-- One line of text a record. -/
  | compact
  /-- One JSON object a record. -/
  | json
  deriving DecidableEq, Repr

/-- A word for no known form. -/
structure UnknownFormat where
  /-- The word in lower case. -/
  word : String
  deriving DecidableEq, Repr

/-- The wording of a refusal. -/
def UnknownFormat.message (e : UnknownFormat) : String := "unknown log format '" ++ e.word ++ "'"

/-- Read a form; the empty word stands for compact lines. -/
def Format.ofText (word : String) : Except UnknownFormat Format :=
  let lower := word.map Char.toLower
  if lower = "compact" || lower = "" then .ok .compact
  else if lower = "json" then .ok .json
  else .error ⟨lower⟩

/-- Which records are shown: those at least as grave as a level, or none. -/
inductive Threshold where
  /-- No record. -/
  | off
  /-- Records of a level and graver ones. -/
  | upTo (level : Level)
  deriving DecidableEq, Repr

/-- Whether a record is shown. -/
def Threshold.shows (t : Threshold) (level : Level) : Bool :=
  match t with
  | .off => false
  | .upTo least => level.rank ≤ least.rank

/-- The word for a threshold. -/
def Threshold.word : Threshold → String
  | .off => "off"
  | .upTo level => level.name.map Char.toLower

/-- The thresholds from the one that shows nothing to the one that shows all. -/
def Threshold.all : List Threshold :=
  [.off, .upTo .error, .upTo .warn, .upTo .info, .upTo .debug, .upTo .trace]

/-- Read an unsigned number; a plus sign may come first. -/
def number? (word : String) : Option Nat :=
  let digits := match word.toList with
    | '+' :: rest => rest
    | cs => cs
  if digits.isEmpty || digits.any (fun c => c < '0' || '9' < c) then none
  else some (digits.foldl (fun n c => n * 10 + (c.toNat - 48)) 0)

/-- Read a threshold: its number, counted from the one that shows nothing, or its word. The
empty word shows errors only. -/
def Threshold.ofText? (word : String) : Option Threshold :=
  let lower := word.map Char.toLower
  match number? word with
  | some n => Threshold.all[n]?
  | none =>
    if word = "" then some (.upTo .error)
    else Threshold.all.find? fun t => t.word = lower

/-- Read a threshold; an unknown word shows everything up to information. -/
def Threshold.ofText (word : String) : Threshold := (ofText? word).getD (.upTo .info)

end AnchoredMetadata.Log
