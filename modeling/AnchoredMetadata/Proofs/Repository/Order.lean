import AnchoredMetadata.Proofs.Repository.Derivation
import AnchoredMetadata.Proofs.Repository.Ownership

/-!
# The order of calls

Calls that are mixed with each other and with lookups have the effect of the
same calls made one after another, in the order in which they got the lock. So
every snapshot reflects the last answer that was received, and what a lookup
sees is the snapshot that was published last.
-/

namespace AnchoredMetadata.Repository

open Time

/-! ## The course of a call -/

/-- The task of a call on its own. -/
def Whole.task : Whole → Task
  | .refresh _ _ _ => .refresh
  | .shutdown => .shutdown

/-- How a call ends that has published: entries are released, then it reports and gives back the
lock. -/
def ending (call : Nat) (left : List Entry) (report : Event) (summary : Option Summary) :
    List Happening :=
  left.flatMap (fun e => (release e).map (.did call)) ++
    [.did call (.report report), .finished call summary]

/-- What happens when a call with the lock is made on its own. -/
def course (r : Repository) (call : Nat) : Whole → List Happening
  | .refresh (.error cause) _ _ =>
    [.received call (.error cause), .did call (.report (.sourceFailed cause)),
      .finished call (some { Summary.zero with sourceError := some cause.message })]
  | .refresh (.ok anchors) makers now =>
    let p := r.plan makers now anchors
    [.received call (.ok anchors)] ++ p.acts.map (.did call) ++
      .published call p.snapshot ::
        ending call p.released (.refreshed p.summary) (some p.summary)
  | .shutdown =>
    let entries := r.snapshot.entries.values
    .published call .empty :: ending call entries (.shutDown entries.length) none

/-- What happens when calls are made one after another. -/
def courses (r : Repository) : List (Nat × Whole) → List Happening
  | [] => []
  | (call, whole) :: rest => r.course call whole ++ (r.after whole).courses rest

/-- One more call takes its course after the others. -/
theorem courses_concat (r : Repository) (calls : List (Nat × Whole)) (call : Nat)
    (whole : Whole) :
    r.courses (calls ++ [(call, whole)]) =
      r.courses calls ++ (r.afterAll (calls.map Prod.snd)).course call whole := by
  induction calls generalizing r with
  | nil => exact List.append_nil _
  | cons first rest ih =>
    rw [List.cons_append, courses, ih, courses, List.append_assoc]
    rfl

/-! ## What a course shows -/

/-- The summaries that calls gave when they gave back the lock; a shutdown gives none. -/
def summaries (history : List Happening) : List (Option Summary) :=
  history.filterMap fun
    | .finished _ summary => some summary
    | _ => none

/-- What a call on its own publishes. -/
def publishedBy (r : Repository) : Whole → List Snapshot
  | .refresh (.error _) _ _ => []
  | .refresh (.ok anchors) makers now =>
    [(r.refresh makers now (.ok anchors)).repository.snapshot]
  | .shutdown => [r.shutdown.1.snapshot]

/-- What a call on its own gives as its summary. -/
def givenBy (r : Repository) : Whole → List (Option Summary)
  | .refresh answer makers now => [some (r.refresh makers now answer).summary]
  | .shutdown => [none]

/-- Some happenings show certain acts, publications and summaries. -/
structure Shows (happenings : List Happening) (acts : List Act) (snapshots : List Snapshot)
    (given : List (Option Summary)) : Prop where
  /-- What was done outside. -/
  deeds : deeds happenings = acts
  /-- What was published. -/
  publications : publications happenings = snapshots
  /-- What summaries were given. -/
  summaries : summaries happenings = given

namespace Shows

variable {happenings later : List Happening} {acts acts' : List Act}
  {snapshots snapshots' : List Snapshot} {given given' : List (Option Summary)}

/-- Happenings one after another show one after another what they show. -/
theorem append (h : Shows happenings acts snapshots given)
    (h' : Shows later acts' snapshots' given') :
    Shows (happenings ++ later) (acts ++ acts') (snapshots ++ snapshots') (given ++ given') where
  deeds := by rw [deeds_append, h.deeds, h'.deeds]
  publications := by rw [publications_append, h.publications, h'.publications]
  summaries := by
    rw [← h.summaries, ← h'.summaries]
    exact List.filterMap_append

/-- Acts show themselves. -/
theorem did (call : Nat) (acts : List Act) : Shows (acts.map (.did call)) acts [] [] where
  deeds := deeds_map_did call acts
  publications := publications_map_did call acts
  summaries := by
    rw [Repository.summaries, List.filterMap_map, List.filterMap_eq_nil_iff]
    exact fun _ _ => rfl

/-- The end of a call shows the releases, the report and the summary. -/
theorem ending (call : Nat) (left : List Entry) (report : Event) (summary : Option Summary) :
    Shows (ending call left report summary) (left.flatMap release ++ reporting report) []
      [summary] := by
  induction left with
  | nil => exact ⟨rfl, rfl, rfl⟩
  | cons e rest ih =>
    have hcons : Repository.ending call (e :: rest) report summary =
        (release e).map (.did call) ++ Repository.ending call rest report summary := by
      rw [Repository.ending, List.flatMap_cons, List.append_assoc, Repository.ending]
    rw [hcons, List.flatMap_cons, List.append_assoc]
    exact (did call (release e)).append ih

/-- The course of a call shows what the call does, publishes and gives on its own. -/
theorem course (r : Repository) (call : Nat) (whole : Whole) :
    Shows (r.course call whole) (r.actsOf whole) (r.publishedBy whole) (r.givenBy whole) := by
  have hpublished (snapshot : Snapshot) : Shows [.published call snapshot] [] [snapshot] [] :=
    ⟨rfl, rfl, rfl⟩
  cases whole with
  | shutdown => exact (hpublished .empty).append (ending call _ _ _)
  | refresh answer makers now =>
    cases answer with
    | error cause => exact ⟨rfl, rfl, rfl⟩
    | ok anchors =>
      let p := r.plan makers now anchors
      have hreceived : Shows [.received call (.ok anchors)] [] [] [] := ⟨rfl, rfl, rfl⟩
      have hplanned := hreceived.append (did call p.acts)
      have hended := (hpublished p.snapshot).append
        (ending call p.released (.refreshed p.summary) (some p.summary))
      have hacts : [] ++ p.acts ++ ([] ++ (p.released.flatMap release ++
          reporting (.refreshed p.summary))) = r.actsOf (.refresh (.ok anchors) makers now) := by
        rw [List.nil_append, List.nil_append, ← List.append_assoc]
        rfl
      exact hacts ▸ hplanned.append hended

/-- The courses of calls show what comes of the calls one after another. -/
theorem courses (r : Repository) (calls : List (Nat × Whole)) :
    Shows (r.courses calls) (collect actsOf r (calls.map Prod.snd))
      (collect publishedBy r (calls.map Prod.snd)) (collect givenBy r (calls.map Prod.snd)) := by
  induction calls generalizing r with
  | nil => exact ⟨rfl, rfl, rfl⟩
  | cons first rest ih => exact (course r first.1 first.2).append (ih (r.after first.2))

end Shows

/-! ## Reading a history -/

/-- Whether something is a part of the course of a call. -/
def Happening.isWork : Happening → Bool
  | .received _ _ | .did _ _ | .published _ _ | .finished _ _ => true
  | .acquired _ _ | .dropped _ | .seen _ => false

/-- What belongs to the courses of calls. -/
def work (history : List Happening) : List Happening := history.filter Happening.isWork

theorem work_append (history news : List Happening) :
    work (history ++ news) = work history ++ work news := List.filter_append ..

theorem work_append_of_nil {history news : List Happening} (h : work news = []) :
    work (history ++ news) = work history := by
  rw [work_append, h, List.append_nil]

theorem acquisitions_append_of_nil {history news : List Happening} (h : acquisitions news = []) :
    acquisitions (history ++ news) = acquisitions history := by
  rw [acquisitions_append, h, List.append_nil]

theorem work_map_did (call : Nat) (acts : List Act) :
    work (acts.map (.did call)) = acts.map (.did call) := by
  rw [work, List.filter_eq_self]
  intro x hx
  obtain ⟨act, _, rfl⟩ := List.mem_map.mp hx
  rfl

/-- All that a history shows is work. -/
theorem shows_of_work {history : List Happening} {acts : List Act} {snapshots : List Snapshot}
    {given : List (Option Summary)} (h : Shows (work history) acts snapshots given) :
    Shows history acts snapshots given := by
  have hsame {α : Type} {g : Happening → Option α}
      (ha : ∀ call task, g (.acquired call task) = none)
      (hd : ∀ call, g (.dropped call) = none) (hs : ∀ snapshot, g (.seen snapshot) = none) :
      (work history).filterMap g = history.filterMap g := by
    rw [work, List.filterMap_filter]
    congr 1
    funext x
    cases x with
    | acquired call task => exact (ha call task).symm
    | dropped call => exact (hd call).symm
    | seen snapshot => exact (hs snapshot).symm
    | _ => rfl
  constructor
  · rw [← h.deeds]
    exact (hsame (fun _ _ => rfl) (fun _ => rfl) fun _ => rfl).symm
  · rw [← h.publications]
    exact (hsame (fun _ _ => rfl) (fun _ => rfl) fun _ => rfl).symm
  · rw [← h.summaries]
    exact (hsame (fun _ _ => rfl) (fun _ => rfl) fun _ => rfl).symm

/-- The calls that got the lock and were not dropped, in the order in which they got it. -/
def granted (history : List Happening) : List (Nat × Task) :=
  (acquisitions history).filter fun x => x.1 ∉ drops history

/-- The answers that were received. -/
def answers (history : List Happening) : List (Except SourceError (List Anchor)) :=
  history.filterMap fun
    | .received _ answer => some answer
    | _ => none

section Granted

variable {history news : List Happening} {call : Nat}

/-- Nobody gets the lock or is dropped by anything else. -/
theorem granted_append_of_nil (ha : acquisitions news = []) (hd : drops news = []) :
    granted (history ++ news) = granted history := by
  rw [granted, acquisitions_append_of_nil ha, drops_append, hd, List.append_nil, granted]

/-- A call that gets the lock comes last. -/
theorem granted_acquired (h : Untouched history call) (task : Task) :
    granted (history ++ [.acquired call task]) = granted history ++ [(call, task)] := by
  have hnew : acquisitions [.acquired call task] = [(call, task)] := rfl
  have hnone : drops [.acquired call task] = [] := rfl
  rw [granted, acquisitions_append, drops_append, hnew, hnone, List.append_nil, List.filter_append,
    granted]
  congr 1
  simp [h.not_dropped]

/-- A call that is dropped is no longer among those that got the lock. -/
theorem granted_dropped (history : List Happening) (call : Nat) :
    granted (history ++ [.dropped call]) = (granted history).filter fun x => x.1 ≠ call := by
  have hnew : drops [.dropped call] = [call] := rfl
  rw [granted, acquisitions_append_of_nil rfl, drops_append, hnew, granted, List.filter_filter]
  apply List.filter_congr
  intro x _
  simp [and_comm]

/-- Dropping a call that did not get the lock changes nothing. -/
theorem granted_left (h : Untouched history call) :
    granted (history ++ [.dropped call]) = granted history := by
  rw [granted_dropped, List.filter_eq_self]
  intro x hx
  have hin := List.mem_map_of_mem (f := Prod.fst) (List.mem_filter.mp hx).1
  exact decide_eq_true fun he => h.not_acquired (he ▸ hin)

end Granted

/-! ## The machine and its calls -/

namespace Machine

/-- The call that has the lock and waits for an answer. -/
def asking (m : Machine) : List (Nat × Task) :=
  match m.holder, m.stage with
  | some call, .asking => [(call, .refresh)]
  | _, _ => []

/-- What is left of the course of the call that works. -/
def left (m : Machine) : List Happening :=
  match m.holder, m.stage with
  | some call, .planned p =>
    .published call p.snapshot :: ending call p.released (.refreshed p.summary) (some p.summary)
  | some call, .clearing =>
    let entries := m.repository.snapshot.entries.values
    .published call .empty :: ending call entries (.shutDown entries.length) none
  | some call, .releasing left report summary => ending call left report summary
  | _, _ => []

/-- The repository when the call that works will have published. -/
def settled (m : Machine) : Repository :=
  match m.stage with
  | .planned p => m.repository.publish p
  | .clearing => { m.repository with snapshot := .empty }
  | _ => m.repository

/-- What is going to be published next. -/
def pending? (m : Machine) : Option (Nat × Snapshot) :=
  match m.holder, m.stage with
  | some call, .planned p => some (call, p.snapshot)
  | some call, .clearing => some (call, .empty)
  | _, _ => none

end Machine

/-- The calls that began to work take their courses one after another, in the order in which they
got the lock. -/
structure Ordered (start : Repository) (m : Machine) (history : List Happening)
    (calls : List (Nat × Whole)) : Prop where
  /-- No call gets the lock twice. -/
  nodup : ((acquisitions history).map Prod.fst).Nodup
  /-- All that got the lock began to work, unless they were dropped or wait for an answer. -/
  order : granted history = calls.map (fun x => (x.1, x.2.task)) ++ m.asking
  /-- What happened are their courses, of which the last one may not be complete. -/
  work : work history ++ m.left = start.courses calls
  /-- The repository is going to be as they leave it. -/
  settled : m.settled = start.afterAll (calls.map Prod.snd)

namespace Ordered

variable {start : Repository} {m m' : Machine} {history news : List Happening}
  {calls : List (Nat × Whole)}

/-- Calls stay ordered while the call that works goes on in its course. -/
theorem go (h : Ordered start m history calls) (ha : acquisitions news = [])
    (hgranted : granted (history ++ news) = granted history) (hasking : m'.asking = m.asking)
    (hwork : Repository.work news ++ m'.left = m.left) (hsettled : m'.settled = m.settled) :
    Ordered start m' (history ++ news) calls where
  nodup := by
    rw [acquisitions_append_of_nil ha]
    exact h.nodup
  order := by
    rw [hgranted, hasking]
    exact h.order
  work := by
    rw [work_append, List.append_assoc, hwork]
    exact h.work
  settled := hsettled.trans h.settled

/-- Calls stay ordered when one more begins to work, which was the one that waited for an answer,
if any did. -/
theorem begin_work (h : Ordered start m history calls) {call : Nat} {whole : Whole}
    (hnodup : ((acquisitions (history ++ news)).map Prod.fst).Nodup)
    (horder : granted (history ++ news) =
      calls.map (fun x => (x.1, x.2.task)) ++ (call, whole.task) :: m'.asking)
    (hleft : m.left = [])
    (hwork : Repository.work news ++ m'.left = m.settled.course call whole)
    (hsettled : m'.settled = m.settled.after whole) :
    Ordered start m' (history ++ news) (calls ++ [(call, whole)]) where
  nodup := hnodup
  order := by
    rw [horder, List.map_append, List.append_assoc]
    rfl
  work := by
    have hbefore := h.work
    rw [hleft, List.append_nil] at hbefore
    rw [courses_concat, ← hbefore, ← h.settled, work_append, List.append_assoc, hwork]
  settled := by
    rw [hsettled, h.settled, List.map_append]
    exact (afterAll_concat _ _ _).symm

/-- A call that gets the lock is the last that did. -/
theorem nodup_acquired (h : Ordered start m history calls) {call : Nat}
    (hnew : Untouched history call) (task : Task) :
    ((acquisitions (history ++ [.acquired call task])).map Prod.fst).Nodup := by
  rw [acquisitions_append, List.map_append]
  refine List.nodup_append'.mpr ⟨h.nodup, List.nodup_singleton call, ?_⟩
  exact List.disjoint_singleton.mpr hnew.not_acquired

/-- A refresh that receives an answer begins to work. -/
theorem receive {r : Repository} {call : Nat}
    (h : Ordered start ⟨r, some call, .asking⟩ history calls)
    (answer : Except SourceError (List Anchor)) (makers : Makers) (now : Instant)
    (ha : acquisitions news = []) (hd : drops news = []) (hasking : m'.asking = [])
    (hwork : Repository.work news ++ m'.left = r.course call (.refresh answer makers now))
    (hsettled : m'.settled = r.after (.refresh answer makers now)) :
    Ordered start m' (history ++ news) (calls ++ [(call, .refresh answer makers now)]) := by
  refine h.begin_work ?_ ?_ rfl hwork hsettled
  · rw [acquisitions_append_of_nil ha]
    exact h.nodup
  · rw [granted_append_of_nil ha hd, h.order, hasking]
    rfl

/-- A refresh that is dropped leaves the calls ordered that began to work. -/
theorem drop {r : Repository} {call : Nat}
    (h : Ordered start ⟨r, some call, .asking⟩ history calls) :
    Ordered start ⟨r, none, .over⟩ (history ++ [.dropped call]) calls where
  nodup := by
    rw [acquisitions_append_of_nil rfl]
    exact h.nodup
  order := by
    have horder : granted history =
      calls.map (fun x => (x.1, x.2.task)) ++ [(call, .refresh)] := h.order
    have hnodup : ((granted history).map Prod.fst).Nodup :=
      h.nodup.sublist (List.filter_sublist.map Prod.fst)
    rw [horder, List.map_append] at hnodup
    have hout := List.disjoint_singleton.mp (List.nodup_append'.mp hnodup).2.2
    rw [granted_dropped, horder, List.filter_append]
    have hothers : (calls.map fun x => (x.1, x.2.task)).filter (fun x => x.1 ≠ call) =
        calls.map fun x => (x.1, x.2.task) := by
      rw [List.filter_eq_self]
      intro x hx
      have hin := List.mem_map_of_mem (f := Prod.fst) hx
      exact decide_eq_true fun he => hout (he ▸ hin)
    rw [hothers]
    simp [Machine.asking]
  work := by
    rw [work_append_of_nil rfl]
    exact h.work
  settled := h.settled

/-- Every step of the machine keeps the calls ordered. A refresh that begins to work does so with
what it receives in this step. -/
theorem advance {move : Move} (h : Ordered start m history calls)
    (ha : Advance history m move news m') :
    ∃ begun, Ordered start m' (history ++ news) (calls ++ begun) ∧
      ∀ call answer makers now, (call, .refresh answer makers now) ∈ begun →
        move = .receive call answer makers now := by
  have hnone (h' : Ordered start m' (history ++ news) calls) :
      ∃ begun, Ordered start m' (history ++ news) (calls ++ begun) ∧
        ∀ call answer makers now, (call, .refresh answer makers now) ∈ begun →
          move = .receive call answer makers now :=
    ⟨[], by rwa [List.append_nil], nofun⟩
  have hone {call : Nat} {answer : Except SourceError (List Anchor)} {makers : Makers}
      {now : Instant} (hmove : move = .receive call answer makers now)
      (h' : Ordered start m' (history ++ news)
        (calls ++ [(call, .refresh answer makers now)])) :
      ∃ begun, Ordered start m' (history ++ news) (calls ++ begun) ∧
        ∀ call answer makers now, (call, .refresh answer makers now) ∈ begun →
          move = .receive call answer makers now := by
    refine ⟨_, h', ?_⟩
    intro c answer' makers' now' hin
    obtain ⟨rfl, hwhole⟩ := Prod.mk.inj (List.mem_singleton.mp hin)
    obtain ⟨rfl, rfl, rfl⟩ := Whole.refresh.inj hwhole
    exact hmove
  cases ha with
  | call task => exact hnone (h.go rfl (granted_append_of_nil rfl rfl) rfl rfl rfl)
  | look => exact hnone (h.go rfl (granted_append_of_nil rfl rfl) rfl rfl rfl)
  | leave _ call hnew => exact hnone (h.go rfl (granted_left hnew) rfl rfl rfl)
  | refresh r call hnew =>
    refine hnone ⟨h.nodup_acquired hnew .refresh, ?_, ?_, h.settled⟩
    · rw [granted_acquired hnew, h.order]
      exact congrArg (· ++ _) (List.append_nil _)
    · rw [work_append_of_nil rfl]
      exact h.work
  | shutdown r call hnew =>
    refine ⟨[(call, .shutdown)], h.begin_work (h.nodup_acquired hnew .shutdown) ?_ rfl rfl rfl, ?_⟩
    · rw [granted_acquired hnew, h.order]
      exact congrArg (· ++ _) (List.append_nil _)
    · intro c answer makers now hin
      exact absurd (List.mem_singleton.mp hin) nofun
  | drop r call => exact hnone h.drop
  | fail r call cause makers now =>
    exact hone rfl (h.receive (.error cause) makers now rfl rfl rfl rfl rfl)
  | plan r call anchors makers now =>
    obtain ⟨hacquired, hdropped⟩ := attended_map_did call (r.plan makers now anchors).acts
    refine hone rfl (h.receive (.ok anchors) makers now hacquired hdropped rfl ?_ rfl)
    rw [work_append, work_map_did]
    rfl
  | publish r call p => exact hnone (h.go rfl (granted_append_of_nil rfl rfl) rfl rfl rfl)
  | clear r call => exact hnone (h.go rfl (granted_append_of_nil rfl rfl) rfl rfl rfl)
  | release r call e left report summary => exact hnone (h.go rfl (granted_append_of_nil rfl rfl) rfl rfl rfl)
  | finish r call report summary => exact hnone (h.go rfl (granted_append_of_nil rfl rfl) rfl rfl rfl)

end Ordered

/-! ## What snapshots reflect -/

/-- What a call is going to publish reflects the last answer: it is the snapshot without entries,
for a shutdown; or the last answer were anchors, which the call received and its snapshot covers,
and nothing was published since. -/
def Reflects (past : List Happening) (call : Nat) (snapshot : Snapshot) : Prop :=
  (call, Task.shutdown) ∈ acquisitions past ∧ snapshot = .empty ∨
    ∃ before anchors since, past = before ++ .received call (.ok anchors) :: since ∧
      answers since = [] ∧ publications since = [] ∧
      snapshot.Covers (lastPublished past) anchors

/-- When a call may publish a snapshot, and a lookup see one. -/
def Timely (past : List Happening) : Happening → Prop
  | .published call snapshot => Reflects past call snapshot
  | .seen snapshot => snapshot = lastPublished past
  | _ => True

section Timely

variable {past news : List Happening} {call : Nat} {snapshot : Snapshot}

/-- A snapshot goes on reflecting the last answer until there is another answer or publication. -/
theorem Reflects.append (h : Reflects past call snapshot) (ha : answers news = [])
    (hp : publications news = []) : Reflects (past ++ news) call snapshot := by
  rcases h with ⟨hshutdown, hempty⟩ | ⟨before, anchors, since, rfl, hanswers, hpublished, hcovers⟩
  · refine Or.inl ⟨?_, hempty⟩
    rw [acquisitions_append]
    exact List.mem_append_left _ hshutdown
  · refine Or.inr ⟨before, anchors, since ++ news, by simp, ?_, ?_, ?_⟩
    · rw [answers, List.filterMap_append]
      exact List.append_eq_nil_iff.mpr ⟨hanswers, ha⟩
    · rw [publications_append, hpublished, hp, List.append_nil]
    · rw [lastPublished_append_of_nil hp]
      exact hcovers

/-- Work that is no publication may happen at any time. -/
theorem timely_map_did (call : Nat) (acts : List Act) :
    Obeys Timely past (acts.map (.did call)) := by
  apply obeys_of_forall
  intro x hx before
  obtain ⟨act, _, rfl⟩ := List.mem_map.mp hx
  exact trivial

/-- Work outside is no answer. -/
theorem answers_map_did (call : Nat) (acts : List Act) : answers (acts.map (.did call)) = [] := by
  rw [answers, List.filterMap_map, List.filterMap_eq_nil_iff]
  exact fun _ _ => rfl

end Timely

/-- Everything happened in time, and what is going to be published reflects the last answer. -/
structure Punctual (m : Machine) (history : List Happening) : Prop where
  /-- What was published reflected the last answer, and what was seen had been published last. -/
  timely : Obeys Timely [] history
  /-- What is going to be published reflects the last answer. -/
  pending : ∀ call snapshot, m.pending? = some (call, snapshot) → Reflects history call snapshot

namespace Punctual

variable {m m' : Machine} {history news : List Happening}

/-- Nothing is late when something happens in time and nothing is going to be published. -/
theorem go (h : Punctual m history) (hnews : Obeys Timely history news)
    (hpending : m'.pending? = none) : Punctual m' (history ++ news) where
  timely := obeys_append.mpr ⟨h.timely, hnews⟩
  pending := by
    intro call snapshot hnext
    rw [hpending] at hnext
    exact absurd hnext nofun

/-- Nothing is late when something happens in time that is no answer and no publication. -/
theorem idle (h : Punctual m history) (hnews : Obeys Timely history news)
    (ha : answers news = []) (hp : publications news = []) : Punctual m (history ++ news) where
  timely := obeys_append.mpr ⟨h.timely, hnews⟩
  pending := fun call snapshot hnext => (h.pending call snapshot hnext).append ha hp

/-- Every step of the machine happens in time. -/
theorem advance {move : Move} (h : Punctual m history)
    (howned : Owned m.repository m.stage history) (ha : Advance history m move news m') :
    Punctual m' (history ++ news) := by
  cases ha with
  | call => exact h.idle trivial rfl rfl
  | leave => exact h.idle ⟨trivial, trivial⟩ rfl rfl
  | look => exact h.idle ⟨howned.published.symm, trivial⟩ rfl rfl
  | refresh => exact h.go ⟨trivial, trivial⟩ rfl
  | shutdown r call =>
    refine ⟨obeys_append.mpr ⟨h.timely, trivial, trivial⟩, ?_⟩
    intro c snapshot hnext
    obtain ⟨rfl, rfl⟩ := Prod.mk.inj (Option.some.inj hnext)
    refine Or.inl ⟨?_, rfl⟩
    rw [acquisitions_append]
    exact List.mem_append_right _ (List.mem_singleton_self _)
  | drop => exact h.go ⟨trivial, trivial⟩ rfl
  | fail => exact h.go ⟨trivial, trivial, trivial, trivial⟩ rfl
  | plan r call anchors makers now =>
    have hdid : Obeys Timely (history ++ [.received call (.ok anchors)])
        ((r.plan makers now anchors).acts.map (.did call)) := timely_map_did call _
    refine ⟨obeys_append.mpr ⟨h.timely, obeys_append.mpr ⟨⟨trivial, trivial⟩, hdid⟩⟩, ?_⟩
    intro c snapshot hnext
    obtain ⟨rfl, rfl⟩ := Prod.mk.inj (Option.some.inj hnext)
    have hnone : publications ([.received call (.ok anchors)] ++
        (r.plan makers now anchors).acts.map (.did call)) = [] := publications_map_did call _
    have hbooks : r.InOrder (deeds history) := howned.books
    refine Or.inr ⟨history, anchors, _, rfl, answers_map_did call _,
      publications_map_did call _, ?_⟩
    rw [lastPublished_append_of_nil hnone, howned.published]
    exact hbooks.covers_plan
  | publish r call p => exact h.go ⟨h.pending call p.snapshot rfl, trivial⟩ rfl
  | clear r call => exact h.go ⟨h.pending call .empty rfl, trivial⟩ rfl
  | release r call e => exact h.go (timely_map_did call _) rfl
  | finish => exact h.go ⟨trivial, trivial, trivial⟩ rfl

end Punctual

/-! ## Whole runs -/

namespace System

/-- A run keeps the calls ordered and punctual, and refreshes begin to work with what they
receive. -/
theorem Sound.ordered {start : Repository} {s t : System} {calls : List (Nat × Whole)}
    (hs : s.Sound) (ho : Ordered start s.machine s.history calls)
    (hp : Punctual s.machine s.history) {moves : List Move} (h : s.run moves = some t) :
    ∃ begun, Ordered start t.machine t.history (calls ++ begun) ∧
      Punctual t.machine t.history ∧
      ∀ call answer makers now, (call, .refresh answer makers now) ∈ begun →
        .receive call answer makers now ∈ moves := by
  induction moves generalizing s calls with
  | nil =>
    obtain rfl := Option.some.inj h
    exact ⟨[], by rwa [List.append_nil], hp, nofun⟩
  | cons move rest ih =>
    rw [System.run, List.foldlM_cons] at h
    obtain ⟨u, hu, hrest⟩ := Option.bind_eq_some_iff.mp h
    obtain ⟨_, news, hhistory, ha⟩ := step_advance hs.orderly hu
    obtain ⟨first, hfirst, hmove⟩ := ho.advance ha
    have hpunctual := hp.advance hs.owned ha
    rw [← hhistory] at hfirst hpunctual
    obtain ⟨later, hlater, hpunctual', hmoves⟩ := ih (hs.step hu) hfirst hpunctual hrest
    rw [List.append_assoc] at hlater
    refine ⟨first ++ later, hlater, hpunctual', ?_⟩
    intro call answer makers now hin
    rcases List.mem_append.mp hin with hin | hin
    · exact hmove call answer makers now hin ▸ List.mem_cons_self
    · exact List.mem_cons_of_mem move (hmoves call answer makers now hin)

/-- Nobody works when no call has the lock. -/
theorem machine_of_isIdle {s : System} (h : s.isIdle = true) :
    s.machine = ⟨s.repository, none, .over⟩ := by
  have hholder : s.holder = none := Option.isNone_iff_eq_none.mp h
  rw [machine, working, hholder]
  rfl

/-- A system that nobody has called is ordered and punctual. -/
theorem ordered_create (settings : Settings) :
    Ordered (Repository.create settings) (create settings).machine [] [] ∧
      Punctual (create settings).machine [] :=
  ⟨⟨List.nodup_nil, rfl, rfl, rfl⟩, ⟨trivial, nofun⟩⟩

/-- In every run, the calls that got the lock and were not dropped begin to work in the order in
which they got it, no call twice, and what happens are the courses that the same calls take one
after another; of the last one perhaps only a part. When no call has the lock, everything was done
and the repository is as if they had been made one after another. What is published reflects the
last answer, and what a lookup sees was published last. -/
theorem run_order (settings : Settings) {moves : List Move} {s : System}
    (h : (create settings).run moves = some s) :
    (∃ calls : List (Nat × Whole),
      ((acquisitions s.history).map Prod.fst).Nodup ∧
      granted s.history = calls.map (fun x => (x.1, x.2.task)) ++ s.machine.asking ∧
      (∀ call answer makers now, (call, .refresh answer makers now) ∈ calls →
        .receive call answer makers now ∈ moves) ∧
      work s.history <+: (Repository.create settings).courses calls ∧
      (s.isIdle = true →
        work s.history = (Repository.create settings).courses calls ∧
        Shows s.history (collect actsOf (Repository.create settings) (calls.map Prod.snd))
          (collect publishedBy (Repository.create settings) (calls.map Prod.snd))
          (collect givenBy (Repository.create settings) (calls.map Prod.snd)) ∧
        s.repository = (Repository.create settings).afterAll (calls.map Prod.snd))) ∧
    ∀ past x later, s.history = past ++ x :: later → Timely past x := by
  obtain ⟨hordered, hpunctual⟩ := ordered_create settings
  obtain ⟨calls, hcalls, hlater, hmoves⟩ :=
    (sound_create settings).ordered hordered hpunctual h
  rw [List.nil_append] at hcalls
  refine ⟨⟨calls, hcalls.nodup, hcalls.order, hmoves, ⟨_, hcalls.work⟩, ?_⟩, ?_⟩
  · intro hidle
    have hmachine := machine_of_isIdle hidle
    have hwork := hcalls.work
    have hsettled := hcalls.settled
    rw [hmachine] at hwork hsettled
    have hcomplete : work s.history = (Repository.create settings).courses calls :=
      (List.append_nil _).symm.trans hwork
    have hshows := Shows.courses (Repository.create settings) calls
    rw [← hcomplete] at hshows
    exact ⟨hcomplete, shows_of_work hshows, hsettled⟩
  · intro past x later hsplit
    have htimely := hlater.timely
    rw [hsplit] at htimely
    exact htimely.rule_apply

/-- Two refreshes and a shutdown are called at the same time; the second refresh gets the lock
first. A third refresh is dropped while it waits for an answer. -/
def overtaking : List Move := [
  .call .refresh, .call .refresh, .call .shutdown, .call .refresh, .acquire 1, .look,
  .receive 1 (.ok [sampleAnchor]) .willing ⟨0⟩, .look, .publish 1, .finish 1, .acquire 3, .look,
  .drop 3, .acquire 0, .receive 0 (.ok [renewedAnchor]) .willing ⟨1⟩, .publish 0, .look,
  .release 0, .finish 0, .acquire 2, .publish 2, .look, .release 2, .finish 2]

/-- The calls work in the order in which they get the lock. -/
theorem overtaking_order :
    ∃ s, ∃ calls : List (Nat × Whole), (create sampleSettings).run overtaking = some s ∧
      calls.map (fun x => (x.1, x.2.task)) = [(1, .refresh), (0, .refresh), (2, .shutdown)] ∧
      work s.history = (Repository.create sampleSettings).courses calls := by
  have hrun : ((create sampleSettings).run overtaking).map
      (fun s => (s.isIdle, granted s.history)) =
        some (true, [(1, .refresh), (0, .refresh), (2, .shutdown)]) := by decide +kernel
  obtain ⟨s, hs, hseen⟩ := Option.map_eq_some_iff.mp hrun
  obtain ⟨hidle, hgranted⟩ := Prod.mk.inj hseen
  obtain ⟨⟨calls, _, horder, _, _, hdone⟩, _⟩ := run_order sampleSettings hs
  refine ⟨s, calls, hs, ?_, (hdone hidle).1⟩
  rw [machine_of_isIdle hidle, hgranted] at horder
  exact (List.append_nil _).symm.trans horder.symm

end System

end AnchoredMetadata.Repository
