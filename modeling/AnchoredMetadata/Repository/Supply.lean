import AnchoredMetadata.Repository.Calls

/-!
# A repository with its source

A refresh that has the lock asks the source of the repository, and goes on with
its answer. Nobody else asks the source. A refresh that is dropped before a
location has answered leaves the source as it was.
-/

namespace AnchoredMetadata.Repository

open Time

/-- A repository with the calls made on it and the source of its anchors. -/
structure Supply where
  /-- Where anchors come from. -/
  source : AnchorSource
  /-- The repository with the calls. -/
  system : System

namespace Supply

/-- What somebody does. -/
inductive Turn where
  /-- A refresh asks the source and receives its answer; `reply` tells what comes back for the
  location at a position. -/
  | ask (call : Nat) (reply : Nat → Reply) (makers : Makers) (now : Instant)
  /-- A move is made in which no answer is received. -/
  | make (move : Move)

/-- The move that is made in a turn. No answer is received but that of the source. -/
def Turn.move? (source : AnchorSource) : Turn → Option Move
  | .ask call reply makers now => some (.receive call (source.fetch reply).result makers now)
  | .make (.receive ..) => none
  | .make move => some move

/-- The source after a turn. -/
def Turn.sourceAfter (source : AnchorSource) : Turn → AnchorSource
  | .ask _ reply _ _ => (source.fetch reply).source
  | .make _ => source

/-- What comes back for the locations in a turn in which the source is asked. -/
def Turn.reply? : Turn → Option (Nat → Reply)
  | .ask _ reply _ _ => some reply
  | .make _ => none

/-- A repository that nobody has called, with a source that has received nothing. -/
def create (settings : Settings) (locations : List Url) : Supply :=
  ⟨.ofLocations locations, .create settings⟩

/-- Take a turn, if it can be taken. -/
def take (s : Supply) (turn : Turn) : Option Supply := do
  let move ← turn.move? s.source
  let system ← s.system.step move
  return ⟨turn.sourceAfter s.source, system⟩

/-- Take turns one after another, if all can be taken. -/
def takeAll (s : Supply) (turns : List Turn) : Option Supply := turns.foldlM take s

/-- What came back for the locations, whenever the source was asked. -/
def replies (turns : List Turn) : List (Nat → Reply) := turns.filterMap Turn.reply?

end Supply

end AnchoredMetadata.Repository
