/-!
# TOML values

What a document holds. A table remembers how it came about, because that
decides whether later lines may add to it.
-/

namespace AnchoredMetadata.Toml

/-- How a table came about. -/
inductive Origin where
  /-- Written between braces. -/
  | inline
  /-- Opened by a header of its own. -/
  | header
  /-- Named on the way by the header of a table inside. -/
  | passed
  /-- Named on the way by a dotted key. -/
  | dotted
  deriving DecidableEq, Repr

/-- A value. Of numbers with a fraction and of dates and times only the kind is kept. -/
inductive Value where
  /-- A text. -/
  | text (s : String)
  /-- A whole number. -/
  | integer (n : Int)
  /-- A number with a fraction or an exponent, or none. -/
  | float
  /-- A truth value. -/
  | boolean (b : Bool)
  /-- A date, a time, or both. -/
  | moment
  /-- A list; `grows` if it consists of tables with headers. -/
  | array (grows : Bool) (items : List Value)
  /-- A table. -/
  | table (origin : Origin) (members : List (String × Value))

/-- The members of a table. -/
abbrev Members := List (String × Value)

/-- The text in a value. -/
def Value.text? : Value → Option String
  | .text s => some s
  | _ => none

/-- The number in a value, if it is not negative. -/
def Value.count? : Value → Option Nat
  | .integer n => if 0 ≤ n then some n.toNat else none
  | _ => none

/-- The items of a list. -/
def Value.items? : Value → Option (List Value)
  | .array _ items => some items
  | _ => none

/-- Whether a value is a table or list that holds nothing. -/
def Value.holdsNothing : Value → Bool
  | .array _ items => items.isEmpty
  | .table _ members => members.isEmpty
  | _ => false

/-- The choice with a name: the name alone, or a table with nothing under the name. -/
def Value.choice? {α : Type} (choices : List (String × α)) : Value → Option α
  | .text name => choices.lookup name
  | .table _ [(name, content)] => if content.holdsNothing then choices.lookup name else none
  | _ => none

/-- The one value under some names, if there is any. There must not be two. -/
def field? (members : Members) (names : List String) : Option (Option Value) :=
  match members.filter fun (key, _) => names.contains key with
  | [] => some none
  | [(_, v)] => some (some v)
  | _ => none

/-- The fields of a record, each under its names: a table has them under their names, a list in
their order. What else there is does not count. -/
def Value.record? (fields : List (List String)) : Value → Option (List (Option Value))
  | .table _ members => fields.mapM (field? members)
  | .array _ items => some ((List.range fields.length).map fun i => items[i]?)
  | _ => none

end AnchoredMetadata.Toml
