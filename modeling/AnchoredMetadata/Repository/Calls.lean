import AnchoredMetadata.Repository

/-!
# Calls at the same time

Refreshes and shutdowns may be called at any time, but a lock lets only one of
them work: the others wait. A call goes on in small steps, between which other
calls and lookups take theirs. While it waits for the lock, or a refresh for the
answer of the source, it may be dropped; a refresh that is dropped gives back
the lock. A lookup reads the published snapshot in one step.
-/

namespace AnchoredMetadata.Repository

open Time

/-- What a call is to do. -/
inductive Task where
  /-- Bring the entries in line with the source. -/
  | refresh
  /-- Release everything. -/
  | shutdown
  deriving DecidableEq, Repr

/-- How far a call has come. -/
inductive Stage where
  /-- It waits for the lock. -/
  | queued (task : Task)
  /-- It has the lock and waits for the answer of the source. -/
  | asking
  /-- It has the lock and is going to publish what it has planned. -/
  | planned (plan : Plan)
  /-- It has the lock and is going to publish the snapshot without entries. -/
  | clearing
  /-- It has the lock and has published; entries are left to be released, and a report and the
  summary of a refresh to be given. -/
  | releasing (left : List Entry) (report : Event) (summary : Option Summary)
  /-- It is over, or was dropped. -/
  | over

/-- Whether a call in a stage has the lock. -/
def Stage.hasLock : Stage → Bool
  | .queued _ | .over => false
  | _ => true

/-- What has happened. -/
inductive Happening where
  /-- A call got the lock. -/
  | acquired (call : Nat) (task : Task)
  /-- A refresh received an answer. -/
  | received (call : Nat) (answer : Except SourceError (List Anchor))
  /-- A call did something outside. -/
  | did (call : Nat) (act : Act)
  /-- A call published a snapshot. -/
  | published (call : Nat) (snapshot : Snapshot)
  /-- A call gave back the lock; a refresh also gave its summary. -/
  | finished (call : Nat) (summary : Option Summary)
  /-- A call was dropped. -/
  | dropped (call : Nat)
  /-- A lookup saw a snapshot. -/
  | seen (snapshot : Snapshot)

/-- A repository with the calls that were made on it. -/
structure System where
  /-- The repository. -/
  repository : Repository
  /-- The calls by their numbers. -/
  calls : List Stage
  /-- The call that has the lock. -/
  holder : Option Nat
  /-- What has happened, from the first on. -/
  history : List Happening

/-- A step that somebody takes. -/
inductive Move where
  /-- A call is made; it gets the next number. -/
  | call (task : Task)
  /-- A call gets the lock. -/
  | acquire (call : Nat)
  /-- A refresh receives the answer of the source and plans. -/
  | receive (call : Nat) (answer : Except SourceError (List Anchor)) (makers : Makers)
      (now : Instant)
  /-- A call publishes. -/
  | publish (call : Nat)
  /-- A call releases the next entry. -/
  | release (call : Nat)
  /-- A call that has released everything reports and gives back the lock. -/
  | finish (call : Nat)
  /-- A call is dropped. -/
  | drop (call : Nat)
  /-- A lookup reads the snapshot. -/
  | look

namespace System

/-- A repository that nobody has called. -/
def create (settings : Settings) : System := ⟨Repository.create settings, [], none, []⟩

/-- The stage of a call. -/
def stage? (s : System) (call : Nat) : Option Stage := s.calls[call]?

/-- Move a call to a stage. -/
def enter (s : System) (call : Nat) (stage : Stage) : System :=
  { s with calls := s.calls.set call stage }

/-- Note what has happened. -/
def note (s : System) (happenings : List Happening) : System :=
  { s with history := s.history ++ happenings }

/-- Let a call with the lock end. -/
def unlock (s : System) (call : Nat) : System := { s.enter call .over with holder := none }

/-- A call gets the lock if nobody has it. -/
def acquire (s : System) (call : Nat) : Option System :=
  match s.holder, s.stage? call with
  | none, some (.queued task) =>
    let next := match task with
      | .refresh => Stage.asking
      | .shutdown => Stage.clearing
    some (({ s with holder := some call }.enter call next).note [.acquired call task])
  | _, _ => none

/-- A refresh receives the answer of the source. Without anchors it is over. -/
def receive (s : System) (call : Nat) (answer : Except SourceError (List Anchor))
    (makers : Makers) (now : Instant) : Option System :=
  match s.stage? call with
  | some .asking =>
    let s := s.note [.received call answer]
    match answer with
    | .error e =>
      let summary : Summary := { Summary.zero with sourceError := some e.message }
      some ((s.unlock call).note
        [.did call (.report (.sourceFailed e)), .finished call (some summary)])
    | .ok anchors =>
      let plan := s.repository.plan makers now anchors
      some ((s.enter call (.planned plan)).note (plan.acts.map (.did call)))
  | _ => none

/-- A call publishes. -/
def publish (s : System) (call : Nat) : Option System :=
  match s.stage? call with
  | some (.planned plan) =>
    some (({ s with repository := s.repository.publish plan }.enter call
      (.releasing plan.released (.refreshed plan.summary) (some plan.summary))).note
        [.published call plan.snapshot])
  | some .clearing =>
    let entries := s.repository.snapshot.entries.values
    some (({ s with repository := { s.repository with snapshot := .empty } }.enter call
      (.releasing entries (.shutDown entries.length) none)).note [.published call .empty])
  | _ => none

/-- A call releases the next entry. -/
def release (s : System) (call : Nat) : Option System :=
  match s.stage? call with
  | some (.releasing (e :: left) report summary) =>
    some ((s.enter call (.releasing left report summary)).note
      ((Repository.release e).map (.did call)))
  | _ => none

/-- A call that has released everything reports and gives back the lock. -/
def finish (s : System) (call : Nat) : Option System :=
  match s.stage? call with
  | some (.releasing [] report summary) =>
    some ((s.unlock call).note [.did call (.report report), .finished call summary])
  | _ => none

/-- A call is dropped where it waits. -/
def drop (s : System) (call : Nat) : Option System :=
  match s.stage? call with
  | some (.queued _) => some ((s.enter call .over).note [.dropped call])
  | some .asking => some ((s.unlock call).note [.dropped call])
  | _ => none

/-- Take a step, if it can be taken. -/
def step (s : System) : Move → Option System
  | .call task => some { s with calls := s.calls ++ [.queued task] }
  | .acquire call => s.acquire call
  | .receive call answer makers now => s.receive call answer makers now
  | .publish call => s.publish call
  | .release call => s.release call
  | .finish call => s.finish call
  | .drop call => s.drop call
  | .look => some (s.note [.seen s.repository.snapshot])

/-- Take steps one after another, if all can be taken. -/
def run (s : System) (moves : List Move) : Option System := moves.foldlM step s

/-- Whether no call has the lock. -/
def isIdle (s : System) : Bool := s.holder.isNone

/-- How often a resolver was destroyed. -/
def timesDestroyed (s : System) (resolver : Nat) : Nat :=
  s.history.countP fun
    | .did _ (.destroy n) => n = resolver
    | _ => false

/-- The snapshots in the order of their publication. -/
def snapshots (s : System) : List Snapshot :=
  s.history.filterMap fun
    | .published _ snapshot => some snapshot
    | _ => none

end System

/-! ## One call after another -/

/-- A call on its own. -/
inductive Whole where
  /-- A refresh with what it receives. -/
  | refresh (answer : Except SourceError (List Anchor)) (makers : Makers) (now : Instant)
  /-- A shutdown. -/
  | shutdown

/-- The repository after a call on its own. -/
def after (r : Repository) : Whole → Repository
  | .refresh answer makers now => (r.refresh makers now answer).repository
  | .shutdown => r.shutdown.1

/-- The repository after calls one after another. -/
def afterAll (r : Repository) (calls : List Whole) : Repository := calls.foldl after r

end AnchoredMetadata.Repository
