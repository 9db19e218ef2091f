import AnchoredMetadata.Proofs.Anchor.Source
import AnchoredMetadata.Proofs.Repository.Outcome
import AnchoredMetadata.Proofs.Repository.Ownership
import AnchoredMetadata.Repository.Supply

/-!
# Outages

The anchors that a source knows are those that its repository brought its
entries in line with last. So a refresh in an outage receives anchors that
change nothing: every entry is kept and none is released.
-/

namespace AnchoredMetadata.Repository

open AnchorSource Time

/-! ## In step with the source -/

/-- The anchors that come with a move. -/
def Move.anchors? : Move → Option (List Anchor)
  | .receive _ (.ok anchors) _ _ => some anchors
  | _ => none

/-- A repository is in step with the anchors that are known, when a call is in a stage. -/
structure InStep (known : Option (List Anchor)) (r : Repository) (stage : Stage) : Prop where
  /-- What is planned is planned for the known anchors. -/
  planned : ∀ p, stage = .planned p →
    ∃ makers now anchors, known = some anchors ∧ p = r.plan makers now anchors
  /-- Unless something is planned, the known anchors change nothing that is published. -/
  unchanged : (∀ p, stage ≠ .planned p) → ∀ id e, r.snapshot.entries.find? id = some e →
    ∃ anchors, known = some anchors ∧ Unchanged anchors id e
  /-- A refresh that has published had anchors. -/
  supplied : ∀ left report summary, stage = .releasing left report (some summary) →
    summary.sourceError = none

/-- Every step of the machine keeps the repository in step with the anchors received last. -/
theorem InStep.advance {known : Option (List Anchor)} {past news : List Happening}
    {m m' : Machine} {move : Move} (h : InStep known m.repository m.stage)
    (ha : Advance past m move news m') :
    InStep (move.anchors?.or known) m'.repository m'.stage := by
  cases ha with
  | call => exact h
  | leave => exact h
  | look => exact h
  | refresh | shutdown | drop | fail | finish =>
    exact ⟨by simp, fun _ => h.unchanged (by simp), by simp⟩
  | plan _ call anchors makers now =>
    -- The known anchors are new here, but nothing is asked of the entries until they are replaced.
    refine ⟨?_, fun hnone => absurd rfl (hnone _), by simp⟩
    intro p hp
    exact ⟨makers, now, anchors, rfl, (Stage.planned.inj hp).symm⟩
  | publish _ call p =>
    obtain ⟨makers, now, anchors, hknown, hp⟩ := h.planned p rfl
    dsimp only at hp
    subst hp
    refine ⟨by simp, fun _ id e he => ⟨anchors, hknown, ?_⟩, ?_⟩
    · exact (find?_entries_plan_cases he).1
    · intro left report summary hstage
      obtain ⟨_, _, rfl⟩ : _ ∧ _ ∧ _ = summary := by simpa using hstage
      rw [summary_plan]
  | clear =>
    refine ⟨by simp, ?_, by simp⟩
    intro _ id e he
    exact absurd he nofun
  | release _ call e left =>
    refine ⟨by simp, fun _ => h.unchanged (by simp), ?_⟩
    intro left' report summary hstage
    obtain ⟨_, rfl, rfl⟩ : _ ∧ _ ∧ _ = some summary := by simpa using hstage
    exact h.supplied (e :: left) _ summary rfl

/-- Without a failed answer no refresh ends with a failure. -/
theorem InStep.sourceError_of_finished {known : Option (List Anchor)} {past news : List Happening}
    {m m' : Machine} {move : Move} (h : InStep known m.repository m.stage)
    (ha : Advance past m move news m')
    (hmove : ∀ call cause makers now, move ≠ .receive call (.error cause) makers now)
    {call : Nat} {summary : Summary} (hf : .finished call (some summary) ∈ news) :
    summary.sourceError = none := by
  cases ha with
  | fail _ call cause makers now => exact absurd rfl (hmove call cause makers now)
  | finish _ call report given =>
    have hgiven : some summary = given := by
      simp only [List.mem_cons, reduceCtorEq, Happening.finished.injEq, false_or, List.not_mem_nil,
        or_false] at hf
      exact hf.2
    exact h.supplied [] report summary (by rw [hgiven])
  | _ => simp at hf

/-! ## Plans that change nothing -/

/-- A plan keeps every published entry as it is and touches none. -/
structure Plan.KeepsAll (p : Plan) (r : Repository) : Prop where
  /-- Every entry is published again. -/
  entries : ∀ id e, r.snapshot.entries.find? id = some e → p.snapshot.entries.find? id = some e
  /-- None is released. -/
  released : p.released = []
  /-- Their resolvers are not destroyed. -/
  intact : ∀ id e, r.snapshot.entries.find? id = some e → destructions p.acts e.resolver = 0
  /-- They are counted as reused, and no failure of the source is reported. -/
  summary : p.summary.reused = r.snapshot.entries.size ∧ p.summary.released = 0 ∧
    p.summary.sourceError = none

/-- A plan for anchors that change nothing keeps all. -/
theorem InOrder.keepsAll_plan {r : Repository} {acts : List Act} {anchors : List Anchor}
    (h : r.InOrder acts)
    (hsame : ∀ id e, r.snapshot.entries.find? id = some e → Unchanged anchors id e)
    (makers : Makers) (now : Instant) : (r.plan makers now anchors).KeepsAll r := by
  have hcounts : (r.refresh makers now (.ok anchors)).Counts r anchors := h.counts_refresh
  have hreused : (r.plan makers now anchors).summary.reused = r.snapshot.entries.size := by
    refine hcounts.reused.trans ?_
    rw [KeyMap.size, List.countP_eq_length]
    intro x hx
    exact decide_eq_true (hsame x.1 x.2 (KeyMap.find?_eq_some_iff.mpr hx))
  have hreleased : (r.plan makers now anchors).summary.released = 0 := by
    have hall : (r.plan makers now anchors).summary.released +
      (r.plan makers now anchors).summary.reused = r.snapshot.entries.size := hcounts.released
    omega
  refine ⟨?_, List.length_eq_zero_iff.mp hreleased, ?_, hreused, hreleased, hcounts.sourceError⟩
  · intro id e he
    exact find?_entries_plan_of_unchanged makers now he (hsame id e he)
  · intro id e he
    exact h.destructions_plan (h.lt_made e (KeyMap.mem_values_iff.mpr ⟨id, he⟩))

/-- Whether a call in a stage waits for the answer of the source. -/
def Stage.isAsking : Stage → Bool
  | .asking => true
  | _ => false

theorem Stage.eq_asking_of_isAsking {stage : Stage} (h : stage.isAsking = true) :
    stage = .asking := by
  cases stage with
  | asking => rfl
  | _ => exact absurd h Bool.false_ne_true

namespace System

variable {s : System} {call : Nat}

/-- A refresh that receives anchors plans for them. -/
theorem exists_receive_ok (h : s.stage? call = some .asking) (anchors : List Anchor)
    (makers : Makers) (now : Instant) :
    let p := s.repository.plan makers now anchors
    ∃ t, s.receive call (.ok anchors) makers now = some t ∧ t.repository = s.repository ∧
      t.stage? call = some (.planned p) ∧
      t.history = s.history ++ [.received call (.ok anchors)] ++ p.acts.map (.did call) := by
  intro p
  simp only [receive, h]
  refine ⟨_, rfl, rfl, ?_, rfl⟩
  have hset := getElem?_set_stage h (.planned p) call
  rw [if_pos rfl] at hset
  exact hset

/-- A refresh that receives no anchors is over. -/
theorem exists_receive_error (h : s.stage? call = some .asking) (cause : SourceError)
    (makers : Makers) (now : Instant) :
    ∃ t, s.receive call (.error cause) makers now = some t ∧ t.repository = s.repository ∧
      t.history = s.history ++ [.received call (.error cause),
        .did call (.report (.sourceFailed cause)),
        .finished call (some { Summary.zero with sourceError := some cause.message })] := by
  simp only [receive, h]
  exact ⟨_, rfl, rfl, List.append_assoc ..⟩

/-- A call that has planned to release nothing publishes and ends. -/
theorem run_publish_finish {p : Plan}
    (h : s.stage? call = some (.planned p)) (hp : p.released = []) :
    ∃ t, s.run [.publish call, .finish call] = some t ∧
      t.repository = s.repository.publish p ∧
      t.history = s.history ++ [.published call p.snapshot,
        .did call (.report (.refreshed p.summary)), .finished call (some p.summary)] := by
  let next := Stage.releasing p.released (.refreshed p.summary) (some p.summary)
  let u := ({ s with repository := s.repository.publish p }.enter call next).note
    [.published call p.snapshot]
  have hpublish : s.publish call = some u := by
    simp only [publish, h]
    rfl
  have hstage : u.stage? call =
      some (.releasing [] (.refreshed p.summary) (some p.summary)) := by
    have hset := getElem?_set_stage h next call
    rw [if_pos rfl] at hset
    rw [← hp]
    exact hset
  let t := (u.unlock call).note
    [.did call (.report (.refreshed p.summary)), .finished call (some p.summary)]
  have hfinish : u.finish call = some t := by
    simp only [finish, hstage]
    rfl
  refine ⟨t, ?_, rfl, List.append_assoc ..⟩
  simp only [run, List.foldlM_cons, step, hpublish, hfinish, Option.bind_eq_bind,
    Option.bind_some]
  rfl

end System

namespace Supply

/-- A turn in which the source is asked leaves known what comes with its move. -/
theorem lastKnown_sourceAfter {source : AnchorSource} {turn : Turn} {move : Move}
    (h : turn.move? source = some move) :
    (turn.sourceAfter source).lastKnown = move.anchors?.or source.lastKnown := by
  cases turn with
  | ask call reply makers now =>
    obtain rfl := Option.some.inj h
    rw [Turn.sourceAfter, lastKnown_fetch]
    cases (source.fetch reply).result <;> rfl
  | make m =>
    cases m with
    | receive => exact absurd h nofun
    | _ =>
      obtain rfl := Option.some.inj h
      rfl

/-- A turn is a move of the system, with the source as the turn leaves it. -/
theorem take_eq_some_iff {s t : Supply} {turn : Turn} : s.take turn = some t ↔
    ∃ move, turn.move? s.source = some move ∧ s.system.step move = some t.system ∧
      t.source = turn.sourceAfter s.source := by
  unfold take
  constructor
  · intro h
    obtain ⟨move, hmove, h⟩ := Option.bind_eq_some_iff.mp h
    obtain ⟨system, hsystem, h⟩ := Option.bind_eq_some_iff.mp h
    obtain rfl := Option.some.inj h
    exact ⟨move, hmove, hsystem, rfl⟩
  · rintro ⟨move, hmove, hsystem, hsource⟩
    simp only [hmove, hsystem, Option.bind_eq_bind, Option.bind_some, ← hsource]
    rfl

/-- A supply in which the source has been asked some times is in order. -/
structure Sound (locations : List Url) (asked : List (Nat → Reply)) (s : Supply) : Prop where
  /-- The source is as these calls leave it. -/
  source : s.source = (ofLocations locations).after asked
  /-- Calls and books are in order. -/
  system : s.system.Sound
  /-- The repository is in step with the source. -/
  inStep : InStep s.source.lastKnown s.system.repository s.system.working

variable {locations : List Url} {asked : List (Nat → Reply)} {s t : Supply}

theorem sound_create (settings : Settings) (locations : List Url) :
    (create settings locations).Sound locations [] where
  source := rfl
  system := System.sound_create settings
  inStep := by
    refine ⟨nofun, fun _ _ _ he => absurd he nofun, ?_⟩
    simp [create, System.create, System.working]

/-- A turn keeps a supply in order. -/
theorem Sound.take {turn : Turn} (hs : s.Sound locations asked) (h : s.take turn = some t) :
    t.Sound locations (asked ++ turn.reply?.toList) := by
  obtain ⟨move, hmove, hsystem, hsource⟩ := take_eq_some_iff.mp h
  obtain ⟨_, news, _, ha⟩ := System.step_advance hs.system.orderly hsystem
  refine ⟨?_, hs.system.step hsystem, ?_⟩
  · rw [hsource, hs.source]
    cases turn with
    | ask call reply makers now => exact (after_concat _ _ _).symm
    | make m => exact congrArg _ (List.append_nil _).symm
  · rw [hsource, lastKnown_sourceAfter hmove]
    exact hs.inStep.advance ha

/-- Turns keep a supply in order. -/
theorem Sound.takeAll {turns : List Turn} (hs : s.Sound locations asked)
    (h : s.takeAll turns = some t) : t.Sound locations (asked ++ replies turns) := by
  induction turns generalizing s asked with
  | nil =>
    obtain rfl := Option.some.inj h
    rw [replies, List.filterMap_nil, List.append_nil]
    exact hs
  | cons turn rest ih =>
    rw [Supply.takeAll, List.foldlM_cons] at h
    obtain ⟨u, hu, hrest⟩ := Option.bind_eq_some_iff.mp h
    have hlater := ih (hs.take hu) hrest
    rw [List.append_assoc] at hlater
    have hreplies : replies (turn :: rest) = turn.reply?.toList ++ replies rest := by
      rw [replies, List.filterMap_cons]
      cases turn.reply? <;> rfl
    rw [hreplies]
    exact hlater

/-! ## After the first anchors -/

/-- Once anchors are known, a turn leaves some known, and no refresh ends in it with a failure of
the source. -/
theorem Sound.take_known {turn : Turn} (hs : s.Sound locations asked)
    (hknown : s.source.lastKnown ≠ none) (h : s.take turn = some t) :
    t.source.lastKnown ≠ none ∧ ∃ news, t.system.history = s.system.history ++ news ∧
      ∀ call summary, .finished call (some summary) ∈ news → summary.sourceError = none := by
  obtain ⟨move, hmove, hsystem, hsource⟩ := take_eq_some_iff.mp h
  obtain ⟨_, news, hhistory, ha⟩ := System.step_advance hs.system.orderly hsystem
  refine ⟨?_, news, hhistory, fun call summary hf => ?_⟩
  · rw [hsource, lastKnown_sourceAfter hmove]
    intro hnone
    exact hknown (Option.or_eq_none_iff.mp hnone).2
  · refine hs.inStep.sourceError_of_finished ha ?_ hf
    rintro call cause makers now rfl
    cases turn with
    | ask _ reply _ _ =>
      obtain ⟨anchors, hresult⟩ := exists_fetch_eq_ok hknown reply
      rw [Turn.move?, hresult] at hmove
      exact absurd (Option.some.inj hmove) nofun
    | make m => cases m <;> exact absurd hmove nofun

/-- Once anchors are known, no refresh ends with a failure of the source. -/
theorem Sound.takeAll_known {turns : List Turn} (hs : s.Sound locations asked)
    (hknown : s.source.lastKnown ≠ none) (h : s.takeAll turns = some t) :
    ∃ news, t.system.history = s.system.history ++ news ∧
      ∀ call summary, .finished call (some summary) ∈ news → summary.sourceError = none := by
  induction turns generalizing s asked with
  | nil =>
    obtain rfl := Option.some.inj h
    exact ⟨[], (List.append_nil _).symm, nofun⟩
  | cons turn rest ih =>
    rw [Supply.takeAll, List.foldlM_cons] at h
    obtain ⟨u, hu, hrest⟩ := Option.bind_eq_some_iff.mp h
    obtain ⟨hstill, first, hfirst, hcalm⟩ := hs.take_known hknown hu
    obtain ⟨later, hlater, hcalm'⟩ := ih (hs.take hu) hstill hrest
    refine ⟨first ++ later, ?_, ?_⟩
    · rw [hlater, hfirst, List.append_assoc]
    · intro call summary hf
      rcases List.mem_append.mp hf with hf | hf
      · exact hcalm call summary hf
      · exact hcalm' call summary hf

/-! ## A refresh in an outage -/

/-- A refresh that waits for an answer receives anchors from the source, plans to keep all that is
published and to release nothing, and ends so. -/
structure Renews (s t : Supply) (call : Nat) (anchors : List Anchor) (p : Plan) : Prop where
  /-- The source knows what it knew. -/
  source : t.source = s.source
  /-- Nothing is published yet. -/
  repository : t.system.repository = s.system.repository
  /-- The refresh has planned. -/
  planned : t.system.stage? call = some (.planned p)
  /-- What it does for that. -/
  history : t.system.history =
    s.system.history ++ [.received call (.ok anchors)] ++ p.acts.map (.did call)
  /-- The plan keeps all. -/
  keeps : p.KeepsAll s.system.repository
  /-- It is published, and then the refresh ends. -/
  ends : ∃ u, t.takeAll [.make (.publish call), .make (.finish call)] = some u ∧
    u.system.repository = s.system.repository.publish p ∧
    u.system.history = t.system.history ++ [.published call p.snapshot,
      .did call (.report (.refreshed p.summary)), .finished call (some p.summary)]

/-- Moves without an answer leave the source alone. -/
theorem takeAll_make {moves : List Move} {u : System}
    (hm : ∀ call answer makers now, .receive call answer makers now ∉ moves)
    (h : s.system.run moves = some u) : s.takeAll (moves.map .make) = some ⟨s.source, u⟩ := by
  induction moves generalizing s with
  | nil =>
    obtain rfl := Option.some.inj h
    rfl
  | cons move rest ih =>
    rw [System.run, List.foldlM_cons] at h
    obtain ⟨v, hv, hrest⟩ := Option.bind_eq_some_iff.mp h
    have hmove : (Turn.make move).move? s.source = some move := by
      cases move with
      | receive call answer makers now => exact (hm call answer makers now List.mem_cons_self).elim
      | _ => rfl
    have htake : s.take (.make move) = some ⟨s.source, v⟩ :=
      take_eq_some_iff.mpr ⟨move, hmove, hv, rfl⟩
    rw [List.map_cons, Supply.takeAll, List.foldlM_cons, htake]
    exact ih (fun call answer makers now hin => hm call answer makers now
      (List.mem_cons_of_mem move hin)) hrest

/-- A refresh that is given the known anchors again keeps all that is published, whether they were
received or not. -/
theorem Sound.renews {call : Nat} {anchors : List Anchor} (hs : s.Sound locations asked)
    (hcall : s.system.stage? call = some .asking) (hknown : s.source.lastKnown = some anchors)
    (makers : Makers) (now : Instant) :
    ∃ t p, s.Renews t call anchors p ∧ ∀ reply,
      (s.source.fetch reply).result = .ok anchors → (s.source.fetch reply).source = s.source →
        s.take (.ask call reply makers now) = some t := by
  have hworking := hs.system.orderly.exclusive.working_eq hcall rfl
  have hbooks : s.system.repository.InOrder (deeds s.system.history) := by
    have hbooks := hs.system.owned.books
    rw [hworking] at hbooks
    exact hbooks
  -- Nothing is planned while the refresh waits, so the entries are those of the known anchors.
  have hsame : ∀ id e, s.system.repository.snapshot.entries.find? id = some e →
      Unchanged anchors id e := by
    intro id e he
    have hunchanged := hs.inStep.unchanged
    rw [hworking] at hunchanged
    obtain ⟨known, hk, hsame⟩ := hunchanged nofun id e he
    obtain rfl := Option.some.inj (hknown.symm.trans hk)
    exact hsame
  obtain ⟨system, hreceive, hrepository, hplanned, hreceived⟩ :=
    System.exists_receive_ok hcall anchors makers now
  have hkeeps := hbooks.keepsAll_plan hsame makers now
  obtain ⟨u, hrun, hu, hhistory⟩ := System.run_publish_finish hplanned hkeeps.released
  have hnone : ∀ c answer makers now,
      Move.receive c answer makers now ∉ [.publish call, .finish call] := by
    simp
  have hends : Supply.takeAll ⟨s.source, system⟩ [.make (.publish call), .make (.finish call)] =
      some ⟨s.source, u⟩ := takeAll_make hnone hrun
  rw [hrepository] at hu
  refine ⟨⟨s.source, system⟩, _, ⟨rfl, hrepository, hplanned, hreceived, hkeeps,
    ⟨s.source, u⟩, hends, hu, hhistory⟩, ?_⟩
  intro reply hresult hsource
  refine take_eq_some_iff.mpr ⟨_, rfl, ?_, hsource.symm⟩
  rw [hresult]
  exact hreceive

/-- While no anchors are known, a refresh without an answer is over and changes nothing. -/
theorem take_failed {call : Nat} {reply : Nat → Reply} {cause : SourceError}
    (hcall : s.system.stage? call = some .asking)
    (hresult : (s.source.fetch reply).result = .error cause)
    (hsource : (s.source.fetch reply).source = s.source) (makers : Makers) (now : Instant) :
    ∃ t, s.take (.ask call reply makers now) = some t ∧ t.source = s.source ∧
      t.system.repository = s.system.repository ∧
      t.system.history = s.system.history ++ [.received call (.error cause),
        .did call (.report (.sourceFailed cause)),
        .finished call (some { Summary.zero with sourceError := some cause.message })] := by
  obtain ⟨system, hreceive, hrepository, hhistory⟩ :=
    System.exists_receive_error hcall cause makers now
  refine ⟨⟨s.source, system⟩, ?_, rfl, hrepository, hhistory⟩
  refine take_eq_some_iff.mpr ⟨_, rfl, ?_, hsource.symm⟩
  rw [hresult]
  exact hreceive

/-- How a supply fares when no location answers, after turns. -/
structure Withstands (locations : List Url) (turns : List Turn) (s : Supply) : Prop where
  /-- The source was called by the refreshes, and by nobody else. -/
  source : s.source = (ofLocations locations).after (replies turns)
  /-- Once anchors came, no refresh ends with a failure of the source. -/
  supplied : (∃ reply ∈ replies turns, ¬ Silent locations.length reply) →
    ∀ later t, s.takeAll later = some t →
      ∃ news, t.system.history = s.system.history ++ news ∧
        ∀ call summary, .finished call (some summary) ∈ news → summary.sourceError = none
  /-- Once anchors came, a refresh to which no location answers is the same as one that receives
  again what came last, and keeps every entry. -/
  again : ∀ anchors, LastAnswer locations.length (replies turns) anchors →
    ∀ call reply makers now, s.system.stage? call = some .asking →
      Silent locations.length reply →
      ∃ t p, s.take (.ask call reply makers now) = some t ∧ s.Renews t call anchors p ∧
        ∀ other position, FirstAnswer locations.length other position anchors →
          s.take (.ask call other makers now) = some t
  /-- While none ever came, such a refresh ends with the failure and changes nothing. -/
  failed : (∀ earlier ∈ replies turns, Silent locations.length earlier) →
    ∀ call reply makers now, s.system.stage? call = some .asking →
      Silent locations.length reply →
      ∃ t cause, s.take (.ask call reply makers now) = some t ∧
        Gives (replies turns) reply locations.length (.error cause) locations.length ∧
        t.source = s.source ∧ t.system.repository = s.system.repository ∧
        t.system.history = s.system.history ++ [.received call (.error cause),
          .did call (.report (.sourceFailed cause)),
          .finished call (some { Summary.zero with sourceError := some cause.message })]

/-- A supply in order withstands outages. -/
theorem Sound.withstands {turns : List Turn} (hs : s.Sound locations (replies turns)) :
    s.Withstands locations turns := by
  have hlocations : s.source.locations = locations := by
    rw [hs.source, locations_after]
    rfl
  refine ⟨hs.source, ?_, ?_, ?_⟩
  · rintro ⟨reply, hreply, hanswered⟩ later t ht
    refine hs.takeAll_known ?_ ht
    rw [hs.source]
    intro hnone
    exact hanswered (lastKnown_after_eq_none_iff.mp hnone reply hreply)
  · intro anchors hlast call reply makers now hcall hsilent
    have hknown : s.source.lastKnown = some anchors := by
      rw [hs.source]
      exact lastKnown_after_eq_some_iff.mpr hlast
    rw [← hlocations] at hsilent
    obtain ⟨t, p, hrenews, htake⟩ := hs.renews hcall hknown makers now
    obtain ⟨hresult, hsource⟩ := fetch_known hknown (Or.inl hsilent)
    refine ⟨t, p, htake reply hresult hsource, hrenews, ?_⟩
    intro other position hfirst
    rw [← hlocations] at hfirst
    obtain ⟨hresult, hsource⟩ := fetch_known hknown (Or.inr ⟨position, hfirst⟩)
    exact htake other hresult hsource
  · intro hnever call reply makers now hcall hsilent
    have hnone : s.source.lastKnown = none := by
      rw [hs.source]
      exact lastKnown_after_eq_none_iff.mpr hnever
    have hgives := gives_fetch locations (replies turns) reply
    dsimp only at hgives
    rw [← hs.source] at hgives
    rw [← hlocations] at hsilent
    obtain ⟨cause, hresult, hsource, hasked⟩ := fetch_unknown hnone hsilent
    rw [hresult, hasked, hlocations] at hgives
    obtain ⟨t, htake, hunchanged⟩ := take_failed hcall hresult hsource makers now
    exact ⟨t, cause, htake, hgives, hunchanged⟩

/-- An outage never shrinks a repository. Every call of a source answers with what the first
location gives that gives anything, or with what came last, or fails if nothing ever came, and
asks no locations behind the one that answers. So a repository whose refreshes ask the source
withstands outages, however its calls are mixed and dropped. -/
theorem outage_never_shrinks {settings : Settings} {locations : List Url} {turns : List Turn}
    {s : Supply} (h : (create settings locations).takeAll turns = some s) :
    (∀ earlier reply,
      let source := (ofLocations locations).after earlier
      let o := source.fetch reply
      Gives earlier reply locations.length o.result o.asked ∧
        ∀ other, (∀ i < o.asked, other i = reply i) → source.fetch other = o) ∧
    s.Withstands locations turns := by
  have hs := (sound_create settings locations).takeAll h
  refine ⟨?_, Sound.withstands hs⟩
  intro earlier reply
  exact ⟨gives_fetch locations earlier reply, fun other hother => fetch_congr hother⟩

/-- The first location gives nothing and the second one an anchor. -/
def secondAnswers : Nat → Reply
  | 0 => .dropped
  | _ => .answered 200 (Text.utf8Encode (Anchor.writeSet [sampleAnchor]))

/-- A refresh makes an entry, and another one is about to ask the source. -/
def refreshing : List Turn := [
  .make (.call .refresh), .make (.acquire 0), .ask 0 secondAnswers .willing ⟨0⟩,
  .make (.publish 0), .make (.finish 0), .make (.call .refresh), .make (.acquire 1)]

/-- When no location answers the second refresh, the entry of the first one is published again. -/
theorem second_refresh_keeps_entry : ∃ s e t p,
    (create sampleSettings [sampleSettings.base, sampleSettings.base]).takeAll refreshing = some s ∧
    s.take (.ask 1 (fun _ => .dropped) .willing ⟨1⟩) = some t ∧
    t.system.stage? 1 = some (.planned p) ∧ e.resolver = 0 ∧
    p.snapshot.entries.find? "shore" = some e ∧ p.released = [] := by
  have hrun : ((create sampleSettings [sampleSettings.base, sampleSettings.base]).takeAll
      refreshing).map (fun s => ((s.system.stage? 1).map Stage.isAsking,
        (s.system.repository.entry? "shore").map Entry.resolver)) =
      some (some true, some 0) := by decide +kernel
  obtain ⟨s, hs, hseen⟩ := Option.map_eq_some_iff.mp hrun
  obtain ⟨hstage, hentry⟩ := Prod.mk.inj hseen
  obtain ⟨e, he, hresolver⟩ := Option.map_eq_some_iff.mp hentry
  obtain ⟨stage, hasking, hisAsking⟩ := Option.map_eq_some_iff.mp hstage
  rw [Stage.eq_asking_of_isAsking hisAsking] at hasking
  have hlast : LastAnswer 2 (replies refreshing) [sampleAnchor] := by
    refine ⟨[], secondAnswers, [], 1, rfl, ⟨Nat.lt_succ_self 1, by decide +kernel, ?_⟩, nofun⟩
    intro i hi
    obtain rfl : i = 0 := by omega
    exact ⟨_, rfl⟩
  obtain ⟨t, p, htake, hrenews, -⟩ := (outage_never_shrinks hs).2.again [sampleAnchor] hlast 1
    (fun _ => .dropped) .willing ⟨1⟩ hasking fun i _ => ⟨_, rfl⟩
  exact ⟨s, e, t, p, hs, htake, hrenews.planned, hresolver, hrenews.keeps.entries "shore" e he,
    hrenews.keeps.released⟩

end Supply

end AnchoredMetadata.Repository
