import AnchoredMetadata.Toml.Value

/-!
# Adding to tables

A name in a table has one value. A dotted key names tables on its way and makes
those that are missing; it passes neither tables with a header of their own nor
finished values, and it ends in a table that dotted keys have made. The way of
a header passes everything but finished values, and a table that stands on it
may still get its own header once.
-/

namespace AnchoredMetadata.Toml

namespace Members

/-- Put a value under a name, in the place of the one that is there. -/
def put (key : String) (v : Value) : Members → Members
  | [] => [(key, v)]
  | e :: rest => if e.1 = key then (key, v) :: rest else e :: put key v rest

/-- Change the table at the end of a path. Tables that are missing get the origin `fresh`, and
only tables of an origin that `mayPass` allows are passed; of a list that grows the last table
is meant. `change` is told the origin of the table it changes. -/
def within (mayPass : Origin → Bool) (fresh : Origin)
    (change : Origin → Members → Option Members) :
    Origin → List String → Members → Option Members
  | origin, [], members => change origin members
  | _, key :: path, members =>
    match members.lookup key with
    | none => do
      let inner ← within mayPass fresh change fresh path []
      return members.put key (.table fresh inner)
    | some (.table origin inner) =>
      if mayPass origin then do
        let inner ← within mayPass fresh change origin path inner
        return members.put key (.table origin inner)
      else none
    | some (.array true items) =>
      match items.getLast? with
      | some (.table origin inner) => do
        let inner ← within mayPass fresh change origin path inner
        return members.put key (.array true (items.dropLast ++ [.table origin inner]))
      | _ => none
    | some _ => none

/-- Add a value under a name that has none. -/
def add (key : String) (v : Value) (members : Members) : Option Members :=
  match members.lookup key with
  | none => some (members ++ [(key, v)])
  | some _ => none

/-- Add a value under a dotted key. -/
def assign (members : Members) (path : List String) (last : String) (v : Value) :
    Option Members :=
  within (fun o => o = .dotted || o = .passed) .dotted
    (fun origin inner => if path.isEmpty || origin = .dotted then inner.add last v else none)
    .header path members

/-- Change the table in which the last name of a header stands. -/
def atHeader (members : Members) (path : List String)
    (change : Members → Option Members) : Option Members :=
  within (fun o => o ≠ .inline) .passed (fun _ inner => change inner) .header path members

/-- The members that a table has before its header: none, or those named on the way to it. -/
def beforeHeader? (last : String) (members : Members) : Option Members :=
  match members.lookup last with
  | none => some []
  | some (.table .passed inner) => some inner
  | some _ => none

/-- Close a table with a header of its own. -/
def close (members : Members) (path : List String) (last : String) (inner : Members) :
    Option Members :=
  members.atHeader path fun outer => some (outer.put last (.table .header inner))

/-- Close one more table of a list. -/
def closeItem (members : Members) (path : List String) (last : String) (inner : Members) :
    Option Members :=
  members.atHeader path fun outer =>
    match outer.lookup last with
    | none => some (outer.put last (.array true [.table .header inner]))
    | some (.array true items) =>
      some (outer.put last (.array true (items ++ [.table .header inner])))
    | some _ => none

/-- The members of the table at the end of a header's path; a table that is missing has none. -/
def reach : Members → List String → Option Members
  | members, [] => some members
  | members, key :: path =>
    match members.lookup key with
    | none => some []
    | some (.table origin inner) => if origin = .inline then none else reach inner path
    | some (.array true items) =>
      match items.getLast? with
      | some (.table _ inner) => reach inner path
      | _ => none
    | some _ => none

/-- The members that a table has when its header opens it. -/
def opened? (members : Members) (path : List String) (last : String) : Option Members :=
  (members.reach path).bind (beforeHeader? last)

/-- Whether a list that a header adds to may stand under its name. -/
def mayGrow (members : Members) (path : List String) (last : String) : Bool :=
  match members.reach path with
  | none => false
  | some outer =>
    match outer.lookup last with
    | none => true
    | some (.array grows _) => grows
    | some _ => false

end Members

end AnchoredMetadata.Toml
