import AnchoredMetadata.Log.Settings

/-!
# Log filters

A filter is a row of directives with commas between them. A directive is a
threshold for all records, or for the records of targets whose names start in a
certain way; without a threshold it shows all of theirs. The directive with the
longest name decides, and of several with one name the last.
-/

namespace AnchoredMetadata.Log

/-- One rule of a filter. -/
structure Directive where
  /-- How the names of its targets start. -/
  target : List Char
  /-- Whether it holds only within a named piece of work. -/
  inScope : Bool
  /-- What it shows. -/
  threshold : Threshold
  deriving DecidableEq, Repr

namespace Directive

/-- The rule for all records. -/
def all (threshold : Threshold) : Directive := ⟨[], false, threshold⟩

/-- Whether a character may stand in the name of a target. -/
def isNameChar (c : Char) : Bool := c.isAlphanum || c = '_' || c = ':' || c = '-'

/-- The threshold that a word of a directive names. -/
def threshold? (word : List Char) : Option Threshold :=
  match word with
  | [] => none
  | [c] => if c.isDigit then Threshold.ofText? (String.ofList word) else none
  | _ => Threshold.all.find? fun t => t.word.toList = word.map Char.toLower

/-- Take off a scope in brackets, if there is one. -/
def takeScope : List Char → Option (List Char)
  | '[' :: rest =>
    match rest.dropWhile (· ≠ ']') with
    | ']' :: rest => some rest
    | _ => none
  | _ => none

/-- Take off the name of a target and a scope, at least one of them and in either order. Tell the
name and whether there is a scope. -/
def takeSubject (cs : List Char) : Option (List Char × Bool × List Char) :=
  match takeScope cs with
  | some rest => some (rest.takeWhile isNameChar, true, rest.dropWhile isNameChar)
  | none =>
    let name := cs.takeWhile isNameChar
    let rest := cs.dropWhile isNameChar
    if name.isEmpty then none
    else match takeScope rest with
      | some rest => some (name, true, rest)
      | none => some (name, false, rest)

/-- The name of a target; a name that is the word of a threshold stands for all targets. -/
def targetOf (name : List Char) : List Char :=
  if (Threshold.ofText? (String.ofList name)).isSome then [] else name

/-- Read a directive. -/
def ofText? (cs : List Char) : Option Directive :=
  match threshold? cs with
  | some t => some (all t)
  | none =>
    match takeSubject cs with
    | some (name, inScope, []) => some ⟨targetOf name, inScope, .upTo .trace⟩
    | some (name, inScope, ['=']) => some ⟨targetOf name, inScope, .upTo .trace⟩
    | some (name, inScope, '=' :: word) =>
      (threshold? word).map fun t => ⟨targetOf name, inScope, t⟩
    | _ => none

/-- Whether a directive decides about the records of a target. -/
def covers (d : Directive) (target : String) : Bool :=
  !d.inScope && d.target.isPrefixOf target.toList

end Directive

/-- Which records are shown. -/
structure Filter where
  /-- The rules; later ones come first if their names are the same. -/
  directives : List Directive
  deriving DecidableEq, Repr

namespace Filter

/-- The pieces of a text between commas. -/
def pieces : List Char → List (List Char)
  | [] => [[]]
  | c :: rest =>
    if c = ',' then [] :: pieces rest
    else match pieces rest with
      | [] => [[c]]
      | piece :: more => (c :: piece) :: more

/-- Read a filter. Without any directive a threshold holds for all records. Pieces that are no
directives are given back. -/
def ofText (text : String) (otherwise : Threshold) : Filter × List String :=
  let given := (pieces text.toList).filter fun piece => !piece.isEmpty
  let directives := given.filterMap Directive.ofText?
  let bad := given.filter fun piece => (Directive.ofText? piece).isNone
  (⟨if directives.isEmpty then [.all otherwise] else directives.reverse⟩, bad.map String.ofList)

/-- What is reported of a piece that is no directive. -/
def ignored (piece : String) : String :=
  "ignoring \x60" ++ piece ++ "\x60: invalid filter directive"

/-- The rule with the longest name of some rules; of several the first. -/
def strongest : List Directive → Option Directive
  | [] => none
  | d :: rest =>
    match strongest rest with
    | none => some d
    | some e => if d.target.length < e.target.length then some e else some d

/-- Whether the records of a target at a level are shown. -/
def shows (f : Filter) (target : String) (level : Level) : Bool :=
  match strongest (f.directives.filter fun d => d.covers target) with
  | some d => d.threshold.shows level
  | none => false

end Filter

end AnchoredMetadata.Log
