import AnchoredMetadata.Repository.Calls

/-!
# One call at a time

The call that has the lock is the only one in a stage that needs it. So a system
behaves like one machine: a repository, the stage of the call that works on it,
and what has happened. Every step of the system is a step of this machine.
-/

namespace AnchoredMetadata.Repository

open Time

namespace System

/-- The lock is held by the call, if any, that is in a stage with the lock. -/
def Exclusive (s : System) : Prop :=
  ∀ call, s.holder = some call ↔ ∃ stage, s.stage? call = some stage ∧ stage.hasLock = true

/-- The stage of the call that has the lock. -/
def working (s : System) : Stage := (s.holder.bind s.stage?).getD .over

variable {s t : System} {call : Nat} {stage next : Stage}

/-- A system that nobody has called is exclusive. -/
theorem exclusive_create (settings : Settings) : (create settings).Exclusive := by
  intro call
  simp [create, stage?]

/-- The call with the lock is the one that works. -/
theorem Exclusive.working_eq (hs : s.Exclusive) (h : s.stage? call = some stage)
    (hl : stage.hasLock = true) : s.working = stage := by
  rw [working, (hs call).mpr ⟨stage, h, hl⟩, Option.bind_some, h, Option.getD_some]

/-- Stages after a call has gone on. -/
theorem getElem?_set_stage (h : s.stage? call = some stage) (next : Stage) (c : Nat) :
    (s.calls.set call next)[c]? = if c = call then some next else s.stage? c := by
  have hlt : call < s.calls.length := (List.getElem?_eq_some_iff.mp h).1
  rw [List.getElem?_set]
  by_cases hc : c = call
  · subst hc
    simp [hlt]
  · simp [hc, Ne.symm hc, stage?]

/-- A call goes on, and the lock changes hands accordingly. -/
theorem Exclusive.enter (hs : s.Exclusive) (h : s.stage? call = some stage) (next : Stage)
    {holder : Option Nat}
    (hh : ∀ c, holder = some c ↔ if c = call then next.hasLock = true else s.holder = some c)
    (r : Repository) (history : List Happening) :
    (System.mk r (s.calls.set call next) holder history).Exclusive := by
  intro c
  have hstage := getElem?_set_stage h next c
  unfold stage?
  rw [hh, hstage]
  by_cases hc : c = call
  · simp [hc]
  · simpa [hc] using hs c

/-- A call with the lock goes on and keeps it. -/
theorem Exclusive.hold (hs : s.Exclusive) (h : s.stage? call = some stage)
    (hfree : s.holder = none ∨ s.holder = some call) (hl : next.hasLock = true)
    (r : Repository) (history : List Happening) :
    (System.mk r (s.calls.set call next) (some call) history).Exclusive ∧
      (System.mk r (s.calls.set call next) (some call) history).working = next := by
  have hlock : ∀ c, some call = some c ↔
      if c = call then next.hasLock = true else s.holder = some c := by
    intro c
    by_cases hc : c = call
    · simp [hc, hl]
    · rcases hfree with hfree | hfree <;> simp [hc, hfree, Ne.symm hc]
  have hstage := getElem?_set_stage h next call
  rw [if_pos rfl] at hstage
  have hexclusive := hs.enter h next hlock r history
  exact ⟨hexclusive, hexclusive.working_eq hstage hl⟩

/-- A call with the lock ends and gives it back. -/
theorem Exclusive.unlock (hs : s.Exclusive) (h : s.stage? call = some stage)
    (hl : stage.hasLock = true) (r : Repository) (history : List Happening) :
    (System.mk r (s.calls.set call .over) none history).Exclusive ∧
      (System.mk r (s.calls.set call .over) none history).working = .over := by
  have hholder := (hs call).mpr ⟨stage, h, hl⟩
  refine ⟨hs.enter h .over ?_ r history, rfl⟩
  intro c
  by_cases hc : c = call
  · simp [hc, Stage.hasLock]
  · simp [hc, hholder, Ne.symm hc]

/-- The same call works as long as it has the lock and its stage stays. -/
theorem working_congr (hh : t.holder = s.holder)
    (hst : ∀ c, s.holder = some c → t.stage? c = s.stage? c) : t.working = s.working := by
  unfold working
  rw [hh]
  cases hholder : s.holder with
  | none => rfl
  | some c => rw [Option.bind_some, Option.bind_some, hst c hholder]

/-- A call that is made waits, and changes nothing for the others. -/
theorem Exclusive.queue (hs : s.Exclusive) (task : Task) :
    ({ s with calls := s.calls ++ [.queued task] } : System).Exclusive ∧
      ({ s with calls := s.calls ++ [.queued task] } : System).working = s.working := by
  have hstage : ∀ c, (s.calls ++ [Stage.queued task])[c]? = s.stage? c ∨
      s.stage? c = none ∧ (s.calls ++ [Stage.queued task])[c]? = some (.queued task) := by
    intro c
    unfold stage?
    rcases Nat.lt_trichotomy c s.calls.length with hc | rfl | hc
    · exact Or.inl (List.getElem?_append_left hc)
    · exact Or.inr (by simp)
    · refine Or.inl ?_
      rw [List.getElem?_eq_none (by simp; omega), List.getElem?_eq_none (by omega)]
  refine ⟨?_, working_congr rfl ?_⟩
  · intro c
    rw [hs c]
    unfold stage? at hstage ⊢
    rcases hstage c with he | ⟨hnone, he⟩
    · rw [he]
    · simp [hnone, he, Stage.hasLock]
  · intro c hholder
    obtain ⟨stage, hc, _⟩ := (hs c).mp hholder
    rcases hstage c with he | ⟨hnone, _⟩
    · exact he
    · rw [hc] at hnone
      exact absurd hnone (by simp)

/-- A call that waits for the lock may leave, which changes nothing for the others. -/
theorem Exclusive.leave {task : Task} (hs : s.Exclusive)
    (h : s.stage? call = some (.queued task)) (history : List Happening) :
    (System.mk s.repository (s.calls.set call .over) s.holder history).Exclusive ∧
      (System.mk s.repository (s.calls.set call .over) s.holder history).working =
        s.working := by
  have hnot : s.holder ≠ some call := by
    intro hholder
    obtain ⟨stage, hstage, hl⟩ := (hs call).mp hholder
    obtain rfl := Option.some.inj (h.symm.trans hstage)
    simp [Stage.hasLock] at hl
  refine ⟨hs.enter h .over ?_ s.repository history, working_congr rfl ?_⟩
  · intro c
    by_cases hc : c = call
    · simp [hc, hnot, Stage.hasLock]
    · simp [hc]
  · intro c hholder
    have hc : c ≠ call := fun he => hnot (he ▸ hholder)
    have hset := getElem?_set_stage h .over c
    rw [if_neg hc] at hset
    exact hset

end System

/-! ## Who was attended to -/

/-- The calls that got the lock, in order, each with its task. -/
def acquisitions (history : List Happening) : List (Nat × Task) :=
  history.filterMap fun
    | .acquired call task => some (call, task)
    | _ => none

/-- The calls that were dropped, in order. -/
def drops (history : List Happening) : List Nat :=
  history.filterMap fun
    | .dropped call => some call
    | _ => none

theorem acquisitions_append (history news : List Happening) :
    acquisitions (history ++ news) = acquisitions history ++ acquisitions news :=
  List.filterMap_append

theorem drops_append (history news : List Happening) :
    drops (history ++ news) = drops history ++ drops news := List.filterMap_append

/-- In some history a call neither got the lock nor was dropped. -/
structure Untouched (history : List Happening) (call : Nat) : Prop where
  /-- It did not get the lock. -/
  not_acquired : call ∉ (acquisitions history).map Prod.fst
  /-- It was not dropped. -/
  not_dropped : call ∉ drops history

/-- A call that goes untouched for longer was untouched all the time. -/
theorem Untouched.append {history news : List Happening} {call : Nat}
    (h : Untouched history call) (hnews : Untouched news call) :
    Untouched (history ++ news) call := by
  constructor
  · rw [acquisitions_append, List.map_append, List.mem_append, not_or]
    exact ⟨h.not_acquired, hnews.not_acquired⟩
  · rw [drops_append, List.mem_append, not_or]
    exact ⟨h.not_dropped, hnews.not_dropped⟩

/-- Work gives nobody the lock and drops nobody. -/
theorem attended_map_did (call : Nat) (acts : List Act) :
    acquisitions (acts.map (.did call)) = [] ∧ drops (acts.map (.did call)) = [] := by
  induction acts with
  | nil => exact ⟨rfl, rfl⟩
  | cons act rest ih => exact ih

/-- No call is touched where nobody gets the lock and nobody is dropped. -/
theorem untouched_of_nil {news : List Happening} (ha : acquisitions news = [])
    (hd : drops news = []) (call : Nat) : Untouched news call := by
  constructor
  · rw [ha]
    exact List.not_mem_nil
  · rw [hd]
    exact List.not_mem_nil

/-- Work touches no call. -/
theorem untouched_map_did (call : Nat) (acts : List Act) (c : Nat) :
    Untouched (acts.map (.did call)) c :=
  untouched_of_nil (attended_map_did call acts).1 (attended_map_did call acts).2 c

namespace System

/-- Calls that wait for the lock, or are not made yet, were not attended to. -/
def Patient (s : System) : Prop :=
  ∀ call, (s.stage? call = none ∨ ∃ task, s.stage? call = some (.queued task)) →
    Untouched s.history call

/-- The lock is exclusive, and nobody who waits for it has had it. -/
structure Orderly (s : System) : Prop where
  /-- Only the call with the lock works. -/
  exclusive : s.Exclusive
  /-- Who waits was not attended to. -/
  patient : s.Patient

variable {s t : System} {call : Nat} {stage next : Stage}

/-- A system that nobody has called is orderly. -/
theorem orderly_create (settings : Settings) : (create settings).Orderly :=
  ⟨exclusive_create settings, fun call _ => untouched_of_nil rfl rfl call⟩

/-- A call that goes on does not wait again, and the others are left alone. -/
theorem Patient.enter (hs : s.Patient) (h : s.stage? call = some stage)
    (hnext : ∀ task, next ≠ .queued task) {news : List Happening}
    (hnews : ∀ c, c ≠ call → Untouched news c) (r : Repository) (holder : Option Nat) :
    (System.mk r (s.calls.set call next) holder (s.history ++ news)).Patient := by
  intro c hc
  unfold stage? at hc
  dsimp only at hc
  rw [getElem?_set_stage h next c] at hc
  by_cases hsame : c = call
  · rw [if_pos hsame] at hc
    rcases hc with hnone | ⟨task, htask⟩
    · exact absurd hnone nofun
    · exact absurd (Option.some.inj htask) (hnext task)
  · rw [if_neg hsame] at hc
    exact (hs c hc).append (hnews c hsame)

/-- A call that is made leaves the others alone. -/
theorem Patient.queue (hs : s.Patient) (task : Task) :
    ({ s with calls := s.calls ++ [.queued task] } : System).Patient := by
  intro c hc
  refine hs c ?_
  by_cases hlt : c < s.calls.length
  · unfold stage? at hc
    dsimp only at hc
    rw [List.getElem?_append_left hlt] at hc
    exact hc
  · exact Or.inl (List.getElem?_eq_none (Nat.le_of_not_lt hlt))

end System

/-! ## The machine behind a system -/

/-- A repository with the call that works on it, if any. -/
structure Machine where
  /-- The repository. -/
  repository : Repository
  /-- The call that has the lock. -/
  holder : Option Nat
  /-- How far it has come. -/
  stage : Stage

/-- A step of the machine behind a system after some history, with what happens. -/
inductive Advance (past : List Happening) :
    Machine → Move → List Happening → Machine → Prop
  /-- A call is made. -/
  | call (m : Machine) (task : Task) : Advance past m (.call task) [] m
  /-- A call that waits for the lock is dropped. -/
  | leave (m : Machine) (call : Nat) (h : Untouched past call) :
      Advance past m (.drop call) [.dropped call] m
  /-- A lookup reads what is published. -/
  | look (m : Machine) : Advance past m .look [.seen m.repository.snapshot] m
  /-- A refresh gets the lock. -/
  | refresh (r : Repository) (call : Nat) (h : Untouched past call) :
      Advance past ⟨r, none, .over⟩ (.acquire call) [.acquired call .refresh]
        ⟨r, some call, .asking⟩
  /-- A shutdown gets the lock. -/
  | shutdown (r : Repository) (call : Nat) (h : Untouched past call) :
      Advance past ⟨r, none, .over⟩ (.acquire call) [.acquired call .shutdown]
        ⟨r, some call, .clearing⟩
  /-- A refresh is dropped while it waits for an answer. -/
  | drop (r : Repository) (call : Nat) :
      Advance past ⟨r, some call, .asking⟩ (.drop call) [.dropped call] ⟨r, none, .over⟩
  /-- A refresh receives no anchors and is over. -/
  | fail (r : Repository) (call : Nat) (cause : SourceError) (makers : Makers) (now : Instant) :
      Advance past ⟨r, some call, .asking⟩ (.receive call (.error cause) makers now)
        ([.received call (.error cause)] ++ [.did call (.report (.sourceFailed cause)),
          .finished call (some { Summary.zero with sourceError := some cause.message })])
        ⟨r, none, .over⟩
  /-- A refresh receives anchors and plans. -/
  | plan (r : Repository) (call : Nat) (anchors : List Anchor) (makers : Makers) (now : Instant) :
      Advance past ⟨r, some call, .asking⟩ (.receive call (.ok anchors) makers now)
        ([.received call (.ok anchors)] ++ (r.plan makers now anchors).acts.map (.did call))
        ⟨r, some call, .planned (r.plan makers now anchors)⟩
  /-- A refresh publishes. -/
  | publish (r : Repository) (call : Nat) (p : Plan) :
      Advance past ⟨r, some call, .planned p⟩ (.publish call) [.published call p.snapshot]
        ⟨r.publish p, some call,
          .releasing p.released (.refreshed p.summary) (some p.summary)⟩
  /-- A shutdown publishes the snapshot without entries. -/
  | clear (r : Repository) (call : Nat) :
      Advance past ⟨r, some call, .clearing⟩ (.publish call) [.published call .empty]
        ⟨{ r with snapshot := .empty }, some call,
          .releasing r.snapshot.entries.values (.shutDown r.snapshot.entries.values.length) none⟩
  /-- An entry is released. -/
  | release (r : Repository) (call : Nat) (e : Entry) (left : List Entry) (report : Event)
      (summary : Option Summary) :
      Advance past ⟨r, some call, .releasing (e :: left) report summary⟩ (.release call)
        ((Repository.release e).map (.did call)) ⟨r, some call, .releasing left report summary⟩
  /-- Everything is released, and the call is over. -/
  | finish (r : Repository) (call : Nat) (report : Event) (summary : Option Summary) :
      Advance past ⟨r, some call, .releasing [] report summary⟩ (.finish call)
        [.did call (.report report), .finished call summary] ⟨r, none, .over⟩

namespace System

/-- The machine behind a system. -/
def machine (s : System) : Machine := ⟨s.repository, s.holder, s.working⟩

/-- One system comes from another, which was orderly, by a step of the machine, and is orderly. -/
def AdvancesTo (s : System) (move : Move) (t : System) : Prop :=
  t.Orderly ∧ ∃ news, t.history = s.history ++ news ∧
    Advance s.history s.machine move news t.machine

variable {s t : System} {call : Nat} {stage next : Stage} {move : Move} {news : List Happening}
  {r : Repository}

/-- The call with the lock takes a step and keeps it. -/
theorem Orderly.advance_hold (hs : s.Orderly) (h : s.stage? call = some stage)
    (hl : stage.hasLock = true) (hn : next.hasLock = true)
    (hnews : ∀ c, c ≠ call → Untouched news c)
    (ha : Advance s.history ⟨s.repository, some call, stage⟩ move news ⟨r, some call, next⟩) :
    s.AdvancesTo move ⟨r, s.calls.set call next, s.holder, s.history ++ news⟩ := by
  have hholder := (hs.exclusive call).mpr ⟨stage, h, hl⟩
  obtain ⟨hexclusive, hnext⟩ :=
    hs.exclusive.hold h (Or.inr hholder) hn r (s.history ++ news)
  have hwaits : ∀ task, next ≠ .queued task := by
    rintro task rfl
    exact absurd hn nofun
  rw [hholder]
  refine ⟨⟨hexclusive, hs.patient.enter h hwaits hnews r (some call)⟩, news, rfl, ?_⟩
  rw [machine, machine, hnext, hholder, hs.exclusive.working_eq h hl]
  exact ha

/-- The call with the lock takes its last step and gives it back. -/
theorem Orderly.advance_unlock (hs : s.Orderly) (h : s.stage? call = some stage)
    (hl : stage.hasLock = true) (hnews : ∀ c, c ≠ call → Untouched news c)
    (ha : Advance s.history ⟨s.repository, some call, stage⟩ move news ⟨r, none, .over⟩) :
    s.AdvancesTo move ⟨r, s.calls.set call .over, none, s.history ++ news⟩ := by
  have hholder := (hs.exclusive call).mpr ⟨stage, h, hl⟩
  obtain ⟨hexclusive, hnext⟩ := hs.exclusive.unlock h hl r (s.history ++ news)
  have hwaits : ∀ task, Stage.over ≠ .queued task := nofun
  refine ⟨⟨hexclusive, hs.patient.enter h hwaits hnews r none⟩, news, rfl, ?_⟩
  rw [machine, machine, hnext, hholder, hs.exclusive.working_eq h hl]
  exact ha

/-- A call takes the lock that nobody has. -/
theorem Orderly.advance_acquire (hs : s.Orderly) (h : s.stage? call = some stage)
    (hfree : s.holder = none) (hn : next.hasLock = true)
    (hnews : ∀ c, c ≠ call → Untouched news c)
    (ha : Advance s.history ⟨s.repository, none, .over⟩ move news
      ⟨s.repository, some call, next⟩) :
    s.AdvancesTo move ⟨s.repository, s.calls.set call next, some call, s.history ++ news⟩ := by
  have hworking : s.working = .over := by simp [working, hfree]
  obtain ⟨hexclusive, hnext⟩ :=
    hs.exclusive.hold h (Or.inl hfree) hn s.repository (s.history ++ news)
  have hwaits : ∀ task, next ≠ .queued task := by
    rintro task rfl
    exact absurd hn nofun
  refine ⟨⟨hexclusive, hs.patient.enter h hwaits hnews s.repository (some call)⟩, news, rfl, ?_⟩
  rw [machine, machine, hnext, hworking, hfree]
  exact ha

/-- A note about a call touches no other call. -/
theorem untouched_of_ne {c : Nat} (hc : c ≠ call) (task : Task) :
    Untouched [.acquired call task] c ∧ Untouched [.dropped call] c :=
  ⟨⟨by simpa [acquisitions] using hc, List.not_mem_nil⟩,
    ⟨List.not_mem_nil, by simpa [drops] using hc⟩⟩

/-- Getting the lock is a step of the machine. -/
theorem acquire_advance (hs : s.Orderly) (h : s.acquire call = some t) :
    s.AdvancesTo (.acquire call) t := by
  unfold acquire at h
  split at h
  · next task hfree hstage =>
    obtain rfl := Option.some.inj h
    have hfresh := hs.patient call (Or.inr ⟨task, hstage⟩)
    have hnews : ∀ c, c ≠ call → Untouched [.acquired call task] c :=
      fun c hc => (untouched_of_ne hc task).1
    cases task with
    | refresh =>
      exact hs.advance_acquire hstage hfree rfl hnews (.refresh s.repository call hfresh)
    | shutdown =>
      exact hs.advance_acquire hstage hfree rfl hnews (.shutdown s.repository call hfresh)
  · exact absurd h (by simp)

/-- Receiving an answer is a step of the machine. -/
theorem receive_advance (hs : s.Orderly) {answer : Except SourceError (List Anchor)}
    {makers : Makers} {now : Instant} (h : s.receive call answer makers now = some t) :
    s.AdvancesTo (.receive call answer makers now) t := by
  unfold receive at h
  split at h
  · next hstage =>
    cases answer with
    | error cause =>
      obtain rfl := Option.some.inj h
      have hstep := hs.advance_unlock hstage rfl
        (fun c _ => untouched_of_nil rfl rfl c)
        (.fail s.repository call cause makers now)
      rw [← List.append_assoc] at hstep
      exact hstep
    | ok anchors =>
      obtain rfl := Option.some.inj h
      have hstep := hs.advance_hold hstage rfl rfl
        (fun c _ => (untouched_of_nil rfl rfl c).append (untouched_map_did call _ c))
        (.plan s.repository call anchors makers now)
      rw [← List.append_assoc] at hstep
      exact hstep
  · exact absurd h (by simp)

/-- Publishing is a step of the machine. -/
theorem publish_advance (hs : s.Orderly) (h : s.publish call = some t) :
    s.AdvancesTo (.publish call) t := by
  have hnews (snapshot : Snapshot) : ∀ c, c ≠ call → Untouched [.published call snapshot] c :=
    fun c _ => untouched_of_nil rfl rfl c
  unfold publish at h
  split at h
  · next p hstage =>
    obtain rfl := Option.some.inj h
    exact hs.advance_hold hstage rfl rfl (hnews _) (.publish s.repository call p)
  · next hstage =>
    obtain rfl := Option.some.inj h
    exact hs.advance_hold hstage rfl rfl (hnews _) (.clear s.repository call)
  · exact absurd h (by simp)

/-- Releasing an entry is a step of the machine. -/
theorem release_advance (hs : s.Orderly) (h : s.release call = some t) :
    s.AdvancesTo (.release call) t := by
  unfold release at h
  split at h
  · next e left report summary hstage =>
    obtain rfl := Option.some.inj h
    exact hs.advance_hold hstage rfl rfl (fun c _ => untouched_map_did call _ c)
      (.release s.repository call e left report summary)
  · exact absurd h (by simp)

/-- Ending is a step of the machine. -/
theorem finish_advance (hs : s.Orderly) (h : s.finish call = some t) :
    s.AdvancesTo (.finish call) t := by
  unfold finish at h
  split at h
  · next report summary hstage =>
    obtain rfl := Option.some.inj h
    exact hs.advance_unlock hstage rfl (fun c _ => untouched_of_nil rfl rfl c)
      (.finish s.repository call report summary)
  · exact absurd h (by simp)

/-- Dropping a call is a step of the machine. -/
theorem drop_advance (hs : s.Orderly) (h : s.drop call = some t) :
    s.AdvancesTo (.drop call) t := by
  have hnews : ∀ c, c ≠ call → Untouched [.dropped call] c :=
    fun c hc => (untouched_of_ne hc .refresh).2
  unfold drop at h
  split at h
  · next task hstage =>
    obtain rfl := Option.some.inj h
    obtain ⟨hexclusive, hnext⟩ := hs.exclusive.leave hstage (s.history ++ [.dropped call])
    have hwaits : ∀ task, Stage.over ≠ .queued task := nofun
    have hpatient := hs.patient.enter hstage hwaits hnews s.repository s.holder
    refine ⟨⟨hexclusive, hpatient⟩, [.dropped call], rfl, ?_⟩
    dsimp only [note, enter, machine]
    rw [hnext]
    exact .leave s.machine call (hs.patient call (Or.inr ⟨task, hstage⟩))
  · next hstage =>
    obtain rfl := Option.some.inj h
    exact hs.advance_unlock hstage rfl hnews (.drop s.repository call)
  · exact absurd h (by simp)

/-- Every step is one of the machine, and keeps the system orderly. -/
theorem step_advance (hs : s.Orderly) (h : s.step move = some t) : s.AdvancesTo move t := by
  cases move with
  | call task =>
    obtain rfl := Option.some.inj h
    obtain ⟨hexclusive, hnext⟩ := hs.exclusive.queue task
    refine ⟨⟨hexclusive, hs.patient.queue task⟩, [], (List.append_nil _).symm, ?_⟩
    dsimp only [machine]
    rw [hnext]
    exact .call s.machine task
  | acquire call => exact acquire_advance hs h
  | receive call answer makers now => exact receive_advance hs h
  | publish call => exact publish_advance hs h
  | release call => exact release_advance hs h
  | finish call => exact finish_advance hs h
  | drop call => exact drop_advance hs h
  | look =>
    obtain rfl := Option.some.inj h
    refine ⟨⟨hs.exclusive, ?_⟩, _, rfl, .look s.machine⟩
    exact fun c hc => (hs.patient c hc).append (untouched_of_nil rfl rfl c)

end System

end AnchoredMetadata.Repository
