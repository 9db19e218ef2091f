import AnchoredMetadata.Proofs.Repository.Outcome

/-!
# Refreshing and starting over

As long as validator and makers give the same answers to the same questions,
it does not matter what a repository went through before a refresh. What is
published then follows from the last anchors alone, and is what a repository
publishes that starts with these anchors.
-/

namespace AnchoredMetadata.Repository

open Time

/-! ## Answers that do not change -/

/-- What the answer of a maker may depend on. -/
structure Request where
  /-- Where the program runs. -/
  environment : String
  /-- The entity and its chain. -/
  anchor : Anchor
  /-- Where the metadata is published. -/
  location : Url
  /-- The certificates of the chain. -/
  store : TrustStore

/-- Answers that do not change over time. A maker that fails does so with a text. -/
structure Answers where
  /-- How the first certificate of a chain is judged. -/
  verdict : AnchorCheck → Certificate → Except String Unit
  /-- Whether there is a client. -/
  client : Request → Except String Unit
  /-- Whether there is a resolver. -/
  resolver : Request → Except String Unit
  /-- Whether there is a trust engine. -/
  engine : Request → Except String Unit

/-- What comes of asking for all parts of an entry. -/
def Answers.parts (answers : Answers) (q : Request) : Except String Unit := do
  answers.client q
  answers.resolver q
  answers.engine q

/-- In a refresh with some anchors, makers answer as they always do. -/
structure Makers.Follow (makers : Makers) (answers : Answers) (s : Settings)
    (anchors : List Anchor) : Prop where
  /-- A verdict depends on the check and the certificate. -/
  verdict : ∀ check id leaf, makers.verdict check id leaf = answers.verdict check leaf
  /-- Whether there is a client depends on no delays. -/
  client : ∀ a settings, lastAnchor? anchors settings.entityId = some a →
    (makers.client s.environment settings).mapError Refusal.message =
      answers.client ⟨s.environment, a, settings.location, settings.store⟩
  /-- Whether there is a resolver depends on no delays. -/
  resolver : ∀ a settings, lastAnchor? anchors settings.entityId = some a →
    (makers.resolver settings).mapError Refusal.message =
      answers.resolver ⟨s.environment, a, settings.location, settings.store⟩
  /-- Whether there is a trust engine depends on no delays. -/
  engine : ∀ a settings, lastAnchor? anchors settings.entityId = some a →
    (makers.engine settings).mapError Refusal.message =
      answers.engine ⟨s.environment, a, settings.location, settings.store⟩

/-- In a call makers answer as they always do. -/
def Whole.Follows (answers : Answers) (s : Settings) : Whole → Prop
  | .refresh (.ok anchors) makers _ => makers.Follow answers s anchors
  | .refresh (.error _) _ _ => True
  | .shutdown => True

/-! ## What follows from an anchor -/

/-- What an entry is like, whatever resolver it has and whenever it was made. -/
structure Content where
  /-- The anchor. -/
  anchor : Anchor
  /-- When the chain first expires. -/
  expiry : Instant
  /-- Where the metadata is published. -/
  location : Url
  /-- The entity that the metadata is about. -/
  entityId : String
  /-- The certificates of the chain. -/
  store : TrustStore

/-- What an entry is like. -/
def Entry.content (e : Entry) : Content :=
  ⟨e.anchor, e.expiry, e.settings.location, e.settings.entityId, e.settings.store⟩

/-- What a making has come to, with the text of a refusal. -/
def Making.view (m : Making) : Except String Content :=
  match m.result with
  | .ok e => .ok e.content
  | .error cause => .error cause.message

/-- What an entry of an anchor is like, or why there is none. -/
def blueprint (s : Settings) (answers : Answers) (a : Anchor) : Except String Content :=
  match a.certificates with
  | .error e => .error (Refusal.chain e).message
  | .ok [] => .error (Refusal.chain (.empty a.entityId)).message
  | .ok (leaf :: rest) =>
    match s.check.elim (.ok ()) fun check => answers.verdict check leaf with
    | .error reason => .error (Refusal.untrusted a.entityId reason).message
    | .ok () =>
      match Certificate.earliestExpiry (leaf :: rest) with
      | none => .error (Refusal.chain (.empty a.entityId)).message
      | some expiry =>
        match Location.ofEntity s.base a.entityId with
        | .error e => .error (Refusal.location e).message
        | .ok location =>
          let store := TrustStore.ofChain a.entityId (leaf :: rest)
          (answers.parts ⟨s.environment, a, location, store⟩).map fun _ =>
            ⟨a, expiry, location, a.entityId, store⟩

section Answers

variable {s : Settings} {answers : Answers} {makers : Makers} {anchors : List Anchor}
  {now : Instant} {made : Nat} {a : Anchor}

/-- Client, resolver and engine are there if the answers say so. -/
theorem view_assemble (h : makers.Follow answers s anchors) {settings : ResolverSettings}
    (ha : lastAnchor? anchors settings.entityId = some a) (expiry : Instant) :
    (assemble makers s.environment made a expiry settings).view =
      (answers.parts ⟨s.environment, a, settings.location, settings.store⟩).map fun _ =>
        ⟨a, expiry, settings.location, settings.entityId, settings.store⟩ := by
  unfold assemble Answers.parts
  rw [← h.client a settings ha, ← h.resolver a settings ha, ← h.engine a settings ha]
  dsimp only
  cases makers.client s.environment settings with
  | error e => rfl
  | ok _ =>
    cases makers.resolver settings with
    | error e => rfl
    | ok _ =>
      cases makers.engine settings with
      | error e => rfl
      | ok _ => rfl

/-- A chain is judged as the answers say. -/
theorem judge_follow (h : makers.Follow answers s anchors) (id : String) (leaf : Certificate) :
    (judge makers s.check id leaf).1 =
      (s.check.elim (.ok ()) fun check => answers.verdict check leaf).mapError
        (Refusal.untrusted id) := by
  unfold judge
  cases s.check with
  | none => rfl
  | some check =>
    dsimp only
    rw [h.verdict check id leaf, Option.elim_some]
    cases answers.verdict check leaf with
    | error reason => rfl
    | ok _ => rfl

/-- What is made of the last anchor of an entity is what follows from it. -/
theorem view_materialize (h : makers.Follow answers s anchors)
    (ha : lastAnchor? anchors a.entityId = some a) :
    (materialize s makers now made a).view = blueprint s answers a := by
  unfold materialize blueprint
  cases a.certificates with
  | error e => rfl
  | ok chain =>
    cases chain with
    | nil => rfl
    | cons leaf rest =>
      dsimp only
      rw [judge_follow h]
      cases s.check.elim (.ok ()) fun check => answers.verdict check leaf with
      | error reason => rfl
      | ok _ =>
        cases Certificate.earliestExpiry (leaf :: rest) with
        | none => rfl
        | some expiry =>
          dsimp only [Except.mapError]
          cases Location.ofEntity s.base a.entityId with
          | error e => rfl
          | ok location => exact view_assemble h ha expiry

end Answers

/-! ## Entries that are what follows from their anchors -/

/-- Every entry is what follows from its anchor. -/
def Faithful (r : Repository) (answers : Answers) : Prop :=
  ∀ id e, r.snapshot.entries.find? id = some e →
    blueprint r.settings answers e.anchor = .ok e.content

section Plan

variable {r : Repository} {answers : Answers} {makers : Makers} {anchors : List Anchor}
  {now : Instant}

/-- The fate of a last anchor is what follows from it. -/
theorem view_fate (hr : r.Faithful answers) (h : makers.Follow answers r.settings anchors)
    {id : String} {a : Anchor} (ha : lastAnchor? anchors id = some a) (n : Nat) :
    let f := fate r.settings makers now r.snapshot n id a
    f.published?.map Entry.content = (blueprint r.settings answers a).toOption ∧
      f.refusal?.map Refusal.message = fault? (blueprint r.settings answers a) := by
  obtain rfl := entityId_of_lastAnchor? ha
  intro f
  unfold f
  rcases fate_cases r.settings makers now r.snapshot n a.entityId a with
    ⟨x, hx, hsame, hf⟩ | ⟨_, notice, _, hf⟩
  · have hfaithful := hr a.entityId x hx
    rw [hsame] at hfaithful
    rw [hf, hfaithful]
    exact ⟨rfl, rfl⟩
  · have hview : (materialize r.settings makers now n a).view = blueprint r.settings answers a :=
      view_materialize h ha
    rw [hf, ← hview, Making.view, Fate.published?_made, Fate.refusal?_made]
    cases (materialize r.settings makers now n a).result with
    | ok e => exact ⟨rfl, rfl⟩
    | error cause => exact ⟨rfl, rfl⟩

/-- What a plan is going to publish for an entity follows from its last anchor. -/
theorem content_plan (hr : r.Faithful answers) (h : makers.Follow answers r.settings anchors)
    (now : Instant) (id : String) :
    ((r.plan makers now anchors).snapshot.entries.find? id).map Entry.content =
        (lastAnchor? anchors id).bind (fun a => (blueprint r.settings answers a).toOption) ∧
      ((r.plan makers now anchors).snapshot.rejected.find? id).map Refusal.message =
        (lastAnchor? anchors id).bind fun a => fault? (blueprint r.settings answers a) := by
  rw [find?_entries_plan, find?_rejected_plan]
  cases ha : lastAnchor? anchors id with
  | none =>
    rw [lookup_fatesOf_of_none ha]
    exact ⟨rfl, rfl⟩
  | some a =>
    obtain ⟨n, _, hf⟩ := r.lookup_fatesOf_of_some makers now ha
    rw [hf]
    exact view_fate hr h ha n

/-- What a plan is going to publish are entries that follow from their anchors. -/
theorem Faithful.plan (hr : r.Faithful answers)
    (h : makers.Follow answers r.settings anchors) :
    (r.publish (r.plan makers now anchors)).Faithful answers := by
  intro id e he
  have hlast : lastAnchor? anchors id = some e.anchor := (find?_entries_plan_cases he).1
  have hcontent := (content_plan hr h now id).1
  have hfound : (r.plan makers now anchors).snapshot.entries.find? id = some e := he
  rw [hfound, hlast, Option.map_some, Option.bind_some] at hcontent
  change blueprint r.settings answers e.anchor = .ok e.content
  cases hb : blueprint r.settings answers e.anchor with
  | error text =>
    rw [hb] at hcontent
    exact absurd hcontent (by simp [Except.toOption])
  | ok c =>
    rw [hb] at hcontent
    rw [Option.some.inj hcontent]

/-- A call in which makers answer as always leaves entries that follow from their anchors. -/
theorem Faithful.after (hr : r.Faithful answers) {call : Whole}
    (h : call.Follows answers r.settings) : (r.after call).Faithful answers := by
  cases call with
  | shutdown =>
    intro id e he
    exact absurd he (by simp [Repository.after, Repository.shutdown, Snapshot.empty])
  | refresh answer makers now =>
    cases answer with
    | error cause => exact hr
    | ok anchors => exact hr.plan h

/-- Calls in which makers answer as always leave entries that follow from their anchors. -/
theorem Faithful.afterAll (hr : r.Faithful answers) {calls : List Whole}
    (h : ∀ call ∈ calls, call.Follows answers r.settings) :
    (r.afterAll calls).Faithful answers := by
  induction calls generalizing r with
  | nil => exact hr
  | cons call rest ih =>
    refine ih (hr.after (h call List.mem_cons_self)) ?_
    intro later hlater
    rw [settings_after]
    exact h later (List.mem_cons_of_mem call hlater)

end Plan

/-! ## Starting over -/

/-- Two snapshots show the same: for the same entities the same entries, whatever their resolvers,
and the same entities left out for the same reasons. -/
structure Snapshot.Agrees (s t : Snapshot) : Prop where
  /-- The entries are alike. -/
  entries : ∀ id, (s.entries.find? id).map Entry.content = (t.entries.find? id).map Entry.content
  /-- The reasons are the same. -/
  rejected : ∀ id,
    (s.rejected.find? id).map Refusal.message = (t.rejected.find? id).map Refusal.message

/-- If makers answer as they always do, then a refresh after any calls publishes what the first
refresh of a new repository with the same settings publishes. -/
theorem refresh_agrees_rebuild {settings : Settings} {answers : Answers} {calls : List Whole}
    (hcalls : ∀ call ∈ calls, call.Follows answers settings) {anchors : List Anchor}
    {makers fresh : Makers} (hmakers : makers.Follow answers settings anchors)
    (hfresh : fresh.Follow answers settings anchors) (now later : Instant) :
    let r := (create settings).afterAll calls
    (r.refresh makers now (.ok anchors)).repository.snapshot.Agrees
      ((create settings).refresh fresh later (.ok anchors)).repository.snapshot := by
  intro r
  have hstart : (create settings).Faithful answers :=
    fun id e he => absurd he (by simp [create, Snapshot.empty])
  have hr : r.Faithful answers := hstart.afterAll hcalls
  have hsettings : r.settings = settings := (create settings).settings_afterAll calls
  rw [← hsettings] at hmakers
  have hlong := content_plan hr hmakers now
  have hshort := content_plan hstart hfresh later
  rw [hsettings] at hlong
  constructor
  · intro id
    exact (hlong id).1.trans (hshort id).1.symm
  · intro id
    exact (hlong id).2.trans (hshort id).2.symm

/-- Answers of which none is a failure, with verdicts as the validators give them. -/
def Answers.willing : Answers where
  verdict := AnchorCheck.judge
  client := fun _ => .ok ()
  resolver := fun _ => .ok ()
  engine := fun _ => .ok ()

/-- Makers of which none fails answer as they always do. -/
theorem follow_willing (s : Settings) (anchors : List Anchor) :
    Makers.willing.Follow .willing s anchors where
  verdict := fun _ _ _ => rfl
  client := fun _ _ _ => rfl
  resolver := fun _ _ _ => rfl
  engine := fun _ _ _ => rfl

/-- An entry that was made twice and kept once is like one that is made at the start. -/
theorem renewal_agrees_rebuild :
    let calls : List Whole := [
      .refresh (.ok [sampleAnchor]) .willing ⟨0⟩, .refresh (.ok [renewedAnchor]) .willing ⟨1⟩]
    let r := (create sampleSettings).afterAll calls
    let first := (create sampleSettings).refresh .willing ⟨3⟩ (.ok [renewedAnchor])
    (r.refresh .willing ⟨2⟩ (.ok [renewedAnchor])).summary.reused = 1 ∧
      (r.refresh .willing ⟨2⟩ (.ok [renewedAnchor])).repository.snapshot.Agrees
        first.repository.snapshot := by
  intro calls r first
  have hcalls : ∀ call ∈ calls, call.Follows .willing sampleSettings := by
    intro call hcall
    rcases List.mem_cons.mp hcall with rfl | hcall
    · exact follow_willing sampleSettings [sampleAnchor]
    · obtain rfl := List.mem_singleton.mp hcall
      exact follow_willing sampleSettings [renewedAnchor]
  refine ⟨by decide +kernel, ?_⟩
  exact refresh_agrees_rebuild hcalls (follow_willing sampleSettings [renewedAnchor])
    (follow_willing sampleSettings [renewedAnchor]) ⟨2⟩ ⟨3⟩

end AnchoredMetadata.Repository
