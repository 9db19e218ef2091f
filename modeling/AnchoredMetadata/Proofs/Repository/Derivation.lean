import AnchoredMetadata.Proofs.Certificate.Chain
import AnchoredMetadata.Proofs.Repository.Outcome
import AnchoredMetadata.Proofs.Trace
import AnchoredMetadata.Proofs.TrustStore
import Mathlib.Data.List.Induction

/-!
# Where entries come from

Every entry was made by a refresh from the last anchor of its entity, and what
its resolver was told follows from the anchor's chain and from the time of that
refresh. Nobody is asked for a client of an anchor that does not pass: its chain
is read, judged and located before.
-/

namespace AnchoredMetadata.Repository

open Time

/-! ## What an entry is made of -/

/-- What a resolver is told follows from the chain of its anchor and from the time of a refresh,
and the chain passes the check in that refresh. -/
structure Derives (s : Settings) (makers : Makers) (now : Instant) (anchor : Anchor)
    (chain : List Certificate) (expiry : Instant) (told : ResolverSettings) : Prop where
  /-- Every text of the anchor's chain can be read. -/
  readable : anchor.chain.map Certificate.ofBase64 = chain.map .ok
  /-- There is a first certificate. -/
  nonempty : chain ≠ []
  /-- It passes the check, if there is one. -/
  accepted : ∀ check, s.check = some check → ∃ leaf, chain.head? = some leaf ∧
    makers.verdict check anchor.entityId leaf = .ok ()
  /-- The chain first expires then. -/
  firstExpiry : Certificate.IsFirstExpiry expiry chain
  /-- The metadata is looked for where the entity publishes it. -/
  location : Location.ofEntity s.base anchor.entityId = .ok told.location
  /-- The metadata is about the entity of the anchor. -/
  entityId : told.entityId = anchor.entityId
  /-- The store has the name of the entity. -/
  name : told.store.name = anchor.entityId
  /-- The store holds the chain in its order, each certificate under the alias of its position. -/
  store : told.store.entries = chain.zipIdx.map fun (c, i) => (TrustStore.chainAlias i, c)
  /-- The shortest pause is no longer than configured. -/
  shortest_le : told.delays.shortest ≤ s.delays.shortest
  /-- The shortest pause is no longer than the longest. -/
  shortest_le_longest : told.delays.shortest ≤ told.delays.longest
  /-- The longest pause is no longer than configured. -/
  longest_le : told.delays.longest ≤ s.delays.longest
  /-- The longest pause is no longer than the time that is left. -/
  longest_le_left : (told.delays.longest.nanoseconds : Int) ≤
    max 0 (expiry.nanoseconds - now.nanoseconds)

section Making

variable {s : Settings} {makers : Makers} {now : Instant} {made : Nat} {a : Anchor}
  {expiry : Instant} {told : ResolverSettings}

/-- Certificates of an anchor come of reading its chain. -/
theorem listOfBase64_of_certificates {chain : List Certificate} (h : a.certificates = .ok chain) :
    Certificate.listOfBase64 a.chain = .ok chain := by
  unfold Anchor.certificates at h
  split at h
  · exact absurd h nofun
  · cases hlist : Certificate.listOfBase64 a.chain with
    | error cause =>
      rw [hlist] at h
      exact absurd h nofun
    | ok certificates =>
      rw [hlist] at h
      obtain rfl := Except.ok.inj h
      rfl

/-- The first certificate of a chain is accepted if the check accepts it, which is asked then. -/
theorem judge_eq_ok_iff {check : Option AnchorCheck} {id : String} {leaf : Certificate} :
    (judge makers check id leaf).1 = .ok () ↔
      ∀ k, check = some k → makers.verdict k id leaf = .ok () := by
  unfold judge
  cases check with
  | none => simp
  | some k =>
    dsimp only
    cases hverdict : makers.verdict k id leaf <;> simp [hverdict]

/-- A check is asked about the first certificate. -/
theorem judge_acts (makers : Makers) (check : Option AnchorCheck) (id : String)
    (leaf : Certificate) :
    (judge makers check id leaf).2 = if check.isSome then [.check leaf] else [] := by
  unfold judge
  cases check with
  | none => rfl
  | some k =>
    dsimp only
    cases makers.verdict k id leaf <;> rfl

/-- What is prepared for an anchor is derived from it, and its chain was read and judged. -/
theorem derives_of_prepare (h : prepare s makers now a = .ok (expiry, told)) :
    ∃ leaf rest, a.certificates = .ok (leaf :: rest) ∧
      Derives s makers now a (leaf :: rest) expiry told := by
  obtain ⟨leaf, rest, location, hchain, hverdict, hexpiry, hlocation, rfl⟩ := exists_of_prepare h
  refine ⟨leaf, rest, hchain, ?_⟩
  constructor
  · exact Certificate.map_ofBase64_of_list (listOfBase64_of_certificates hchain)
  · exact List.cons_ne_nil leaf rest
  · intro check hcheck
    exact ⟨leaf, rfl, judge_eq_ok_iff.mp hverdict check hcheck⟩
  · exact Certificate.earliestExpiry_eq_some_iff.mp hexpiry
  · exact hlocation
  · rfl
  · exact TrustStore.name_ofChain a.entityId (leaf :: rest)
  · exact TrustStore.entries_ofChain a.entityId (leaf :: rest)
  all_goals
    simp only [ResolverSettings.forEntity, Delays.cappedAt, Duration.le_def,
      Duration.shorter_nanoseconds, Instant.since]
    omega

end Making

/-! ## What has to come before -/

/-- What may be done in a refresh with some anchors, after what was done before in it. A client is
only asked for when an anchor passes, and right after the check of its first certificate; then
resolver and engine are asked for, each when there is what comes before. -/
def Permits (s : Settings) (makers : Makers) (now : Instant) (anchors : List Anchor)
    (done : List Act) : Act → Prop
  | .client environment told =>
    environment = s.environment ∧
      ∃ a chain expiry, lastAnchor? anchors told.entityId = some a ∧
        Derives s makers now a chain expiry told ∧
        (s.check.isSome = true → ∃ leaf, chain.head? = some leaf ∧
          done.getLast? = some (.check leaf))
  | .resolver told =>
    done.getLast? = some (.client s.environment told) ∧
      makers.client s.environment told = .ok ()
  | .made _ told => done.getLast? = some (.resolver told) ∧ makers.resolver told = .ok ()
  | .engine n => ∃ told, done.getLast? = some (.made n told)
  | .check _ | .destroy _ | .report _ => True

section Permits

variable {s : Settings} {makers : Makers} {now : Instant} {anchors : List Anchor}
  {done : List Act}

/-- Acts that ask nothing are always permitted. -/
theorem obeys_of_asked_eq_nil {acts : List Act} (h : asked acts = []) :
    Obeys (Permits s makers now anchors) done acts := by
  rw [asked, List.filter_eq_nil_iff] at h
  apply obeys_of_forall
  intro act hact past
  have hquiet := h act hact
  cases act with
  | destroy n => exact trivial
  | report event => exact trivial
  | _ => exact absurd rfl hquiet

/-- Asking for client, resolver and engine is permitted where asking for the client is. -/
theorem obeys_assemble {made : Nat} {a : Anchor} {expiry : Instant} {told : ResolverSettings}
    (h : Permits s makers now anchors done (.client s.environment told)) :
    Obeys (Permits s makers now anchors) done
      (assemble makers s.environment made a expiry told).acts := by
  unfold assemble
  cases hc : makers.client s.environment told with
  | error cause => exact ⟨h, trivial⟩
  | ok _ =>
    cases hr : makers.resolver told with
    | error cause => exact ⟨h, ⟨List.getLast?_concat .., hc⟩, trivial⟩
    | ok _ =>
      have hasked : Obeys (Permits s makers now anchors) done
          [.client s.environment told, .resolver told, .made made told, .engine made] :=
        ⟨h, ⟨List.getLast?_concat .., hc⟩, ⟨List.getLast?_concat .., hr⟩,
          ⟨told, List.getLast?_concat ..⟩, trivial⟩
      cases makers.engine told with
      | error cause => exact obeys_append.mpr ⟨hasked, trivial, trivial⟩
      | ok _ => exact obeys_append.mpr ⟨hasked, trivial, trivial⟩

/-- Everything that is done to make an entry of a last anchor is permitted. -/
theorem obeys_materialize {made : Nat} {a : Anchor} (ha : lastAnchor? anchors a.entityId = some a) :
    Obeys (Permits s makers now anchors) done (materialize s makers now made a).acts := by
  have hquestions : Obeys (Permits s makers now anchors) done (questions s makers a) := by
    unfold questions
    split
    · rw [judge_acts]
      split
      · exact ⟨trivial, trivial⟩
      · exact trivial
    · exact trivial
  rw [materialize_eq]
  cases hp : prepare s makers now a with
  | error cause => exact hquestions
  | ok p =>
    obtain ⟨expiry, told⟩ := p
    obtain ⟨leaf, rest, hchain, hderives⟩ := derives_of_prepare hp
    refine obeys_append.mpr ⟨hquestions, obeys_assemble ⟨rfl, a, leaf :: rest, expiry, ?_,
      hderives, ?_⟩⟩
    · rw [hderives.entityId]
      exact ha
    · intro hcheck
      refine ⟨leaf, rfl, ?_⟩
      rw [questions, hchain]
      dsimp only
      rw [judge_acts, if_pos hcheck]
      exact List.getLast?_concat ..

/-- Everything that fates of last anchors do is permitted. -/
theorem obeys_fates {previous : Snapshot} {made : Nat} {xs : List (String × Anchor)}
    (hxs : ∀ x ∈ xs, lastAnchor? anchors x.1 = some x.2) :
    Obeys (Permits s makers now anchors) done
      (actsBy (fates s makers now previous made xs)) := by
  induction xs generalizing done made with
  | nil => exact trivial
  | cons x rest ih =>
    obtain ⟨id, a⟩ := x
    obtain ⟨hlast, hrest⟩ := List.forall_mem_cons.mp hxs
    rw [fates, actsBy, List.flatMap_cons]
    refine obeys_append.mpr ⟨?_, ih hrest⟩
    rcases fate_cases s makers now previous made id a with
      ⟨e, _, _, hf⟩ | ⟨_, notice, hnotice, hf⟩
    · rw [hf]
      exact trivial
    · have hquiet : asked notice = [] := by
        rcases hnotice with rfl | rfl <;> rfl
      rw [hf]
      refine obeys_append.mpr ⟨obeys_append.mpr ⟨obeys_of_asked_eq_nil hquiet, ?_⟩,
        obeys_of_asked_eq_nil ?_⟩
      · apply obeys_materialize
        rw [entityId_of_lastAnchor? hlast]
        exact hlast
      · split <;> rfl

/-- Everything that is done in a refresh is permitted. -/
theorem obeys_refresh (r : Repository) (makers : Makers) (now : Instant) (anchors : List Anchor) :
    Obeys (Permits r.settings makers now anchors) []
      (r.refresh makers now (.ok anchors)).acts := by
  have hplan : Obeys (Permits r.settings makers now anchors) []
      (r.plan makers now anchors).acts := by
    rw [acts_plan]
    refine obeys_append.mpr ⟨obeys_of_asked_eq_nil (asked_duplicates [] anchors),
      obeys_fates ?_⟩
    intro x hx
    rw [← find?_current]
    exact KeyMap.find?_eq_some_iff.mpr hx
  have hreleased := asked_releases (r.plan makers now anchors).released
  exact obeys_append.mpr ⟨obeys_append.mpr ⟨hplan, obeys_of_asked_eq_nil hreleased⟩,
    obeys_of_asked_eq_nil rfl⟩

end Permits

/-! ## Calls one after another -/

/-- What comes of calls one after another, if it is known what comes of one. -/
def collect {α : Type} (f : Repository → Whole → List α) (r : Repository) : List Whole → List α
  | [] => []
  | call :: rest => f r call ++ (r.after call).collect f rest

/-- What a call on its own does outside. -/
def actsOf (r : Repository) : Whole → List Act
  | .refresh answer makers now => (r.refresh makers now answer).acts
  | .shutdown => r.shutdown.2

/-- What calls do outside, one after another. -/
def actsOfAll (r : Repository) (calls : List Whole) : List Act := collect actsOf r calls

/-- What a call on its own may do after what it did before. -/
def Whole.Permits (s : Settings) (done : List Act) (act : Act) : Whole → Prop
  | .refresh (.ok anchors) makers now => Repository.Permits s makers now anchors done act
  | .refresh (.error _) _ _ | .shutdown => act.asks = false

/-- Everything that a call does is permitted. -/
theorem permits_of_actsOf {r : Repository} {call : Whole} {done rest : List Act} {act : Act}
    (h : r.actsOf call = done ++ act :: rest) : call.Permits r.settings done act := by
  have hquiet (hasked : asked (r.actsOf call) = []) : act.asks = false := by
    rw [h, asked, List.filter_eq_nil_iff] at hasked
    exact eq_false_of_ne_true (hasked act (List.mem_append_right done List.mem_cons_self))
  cases call with
  | shutdown =>
    apply hquiet
    rw [actsOf, Repository.shutdown, asked_append, asked_releases]
    rfl
  | refresh answer makers now =>
    cases answer with
    | error cause => exact hquiet rfl
    | ok anchors =>
      have hobeys := obeys_refresh r makers now anchors
      rw [show (r.refresh makers now (.ok anchors)).acts = done ++ act :: rest from h] at hobeys
      exact hobeys.rule_apply

/-- Whatever is done over some calls is done by one of them, after those before it. -/
theorem exists_call_of_actsOfAll {r : Repository} {calls : List Whole} {past future : List Act}
    {act : Act} (h : r.actsOfAll calls = past ++ act :: future) :
    ∃ before call later done rest, calls = before ++ call :: later ∧
      past = r.actsOfAll before ++ done ∧
      (r.afterAll before).actsOf call = done ++ act :: rest := by
  induction calls generalizing r past with
  | nil => exact absurd h (by simp [actsOfAll, collect])
  | cons call others ih =>
    have hlater {p : List Act} (hp : (r.after call).actsOfAll others = p ++ act :: future)
        (hpast : past = r.actsOf call ++ p) :
        ∃ before c later done rest, call :: others = before ++ c :: later ∧
          past = r.actsOfAll before ++ done ∧
          (r.afterAll before).actsOf c = done ++ act :: rest := by
      obtain ⟨before, c, later, done, rest, rfl, rfl, hacts⟩ := ih hp
      refine ⟨call :: before, c, later, done, rest, rfl, ?_, hacts⟩
      rw [hpast, actsOfAll, actsOfAll, collect, List.append_assoc]
    rw [actsOfAll, collect] at h
    rcases List.append_eq_append_iff.mp h with ⟨p, hpast, hrest⟩ | ⟨p, hacts, hrest⟩
    · exact hlater hrest hpast
    · cases p with
      | nil =>
        rw [List.append_nil] at hacts
        exact hlater (p := []) hrest.symm (by rw [List.append_nil, hacts])
      | cons x tail =>
        obtain ⟨rfl, rfl⟩ := List.cons.inj hrest
        exact ⟨[], call, others, past, tail, rfl, rfl, hacts⟩

/-- An entry was made by a refresh with some anchors, after other calls on a new repository. -/
structure Entry.MadeBy (e : Entry) (id : String) (settings : Settings) (before : List Whole)
    (anchors : List Anchor) (makers : Makers) (now : Instant) : Prop where
  /-- It is kept under the entity of its anchor. -/
  key : e.anchor.entityId = id
  /-- Its anchor is the last one of that entity. -/
  last : lastAnchor? anchors id = some e.anchor
  /-- Its resolver had not been made before. -/
  fresh : ((create settings).afterAll before).made ≤ e.resolver
  /-- Its resolver has been made afterwards. -/
  made : e.resolver <
    ((create settings).afterAll (before ++ [.refresh (.ok anchors) makers now])).made
  /-- Everything else is derived from the anchor. -/
  derives : ∃ chain, Derives settings makers now e.anchor chain e.expiry e.settings

/-- Every entry was made by a refresh among the calls, of the last anchor of its entity, and was
published by this refresh. -/
theorem exists_materialize {settings : Settings} (calls : List Whole) {id : String} {e : Entry}
    (h : ((create settings).afterAll calls).snapshot.entries.find? id = some e) :
    ∃ before anchors makers now later n,
      calls = before ++ .refresh (.ok anchors) makers now :: later ∧
      lastAnchor? anchors id = some e.anchor ∧
      ((create settings).afterAll before).made ≤ n ∧
      (materialize settings makers now n e.anchor).result = .ok e ∧
      ((create settings).afterAll
        (before ++ [.refresh (.ok anchors) makers now])).snapshot.entries.find? id = some e := by
  induction calls using List.reverseRecOn with
  | nil => exact absurd h nofun
  | append_singleton calls call ih =>
    have hkept (hold : ((create settings).afterAll calls).snapshot.entries.find? id = some e) :
        ∃ before anchors makers now later n,
          calls ++ [call] = before ++ .refresh (.ok anchors) makers now :: later ∧
          lastAnchor? anchors id = some e.anchor ∧
          ((create settings).afterAll before).made ≤ n ∧
          (materialize settings makers now n e.anchor).result = .ok e ∧
          ((create settings).afterAll
            (before ++ [.refresh (.ok anchors) makers now])).snapshot.entries.find? id =
              some e := by
      obtain ⟨before, anchors, makers, now, later, n, rfl, hmade⟩ := ih hold
      exact ⟨before, anchors, makers, now, later ++ [call], n, by simp, hmade⟩
    have hpublished := h
    rw [afterAll_concat] at h
    cases call with
    | shutdown => exact absurd h nofun
    | refresh answer makers now =>
      cases answer with
      | error cause => exact hkept h
      | ok anchors =>
        obtain ⟨hlast, hold | ⟨n, hn, hres⟩⟩ := find?_entries_plan_cases h
        · exact hkept hold
        · rw [settings_afterAll] at hres
          exact ⟨calls, anchors, makers, now, [], n, rfl, hlast, hn, hres, hpublished⟩

/-- Every entry was made by one of the calls. -/
theorem exists_madeBy {settings : Settings} (calls : List Whole) {id : String} {e : Entry}
    (h : ((create settings).afterAll calls).snapshot.entries.find? id = some e) :
    ∃ before anchors makers now later,
      calls = before ++ .refresh (.ok anchors) makers now :: later ∧
        e.MadeBy id settings before anchors makers now := by
  obtain ⟨before, anchors, makers, now, later, n, hcalls, hlast, hn, hres, hpublished⟩ :=
    exists_materialize calls h
  obtain ⟨acts, horder⟩ :=
    (inOrder_create settings).afterAll (before ++ [.refresh (.ok anchors) makers now])
  have hbound := horder.lt_made e (KeyMap.mem_values_iff.mpr ⟨id, hpublished⟩)
  obtain ⟨hprepare, _⟩ := prepare_of_materialize hres
  obtain ⟨leaf, rest, _, hderives⟩ := derives_of_prepare hprepare
  have hnumber := ((materialize_balanced settings makers now n e.anchor).of_ok e hres).1
  exact ⟨before, anchors, makers, now, later, hcalls, entityId_of_lastAnchor? hlast, hlast,
    by omega, hbound, leaf :: rest, hderives⟩

/-- After any calls on a new repository, every entry was made by one of the refreshes from the last
anchor of its entity, and agrees with the chain of this anchor and with the time of this refresh.
And everything that was done outside over all calls was done by one of them, where it was
permitted: a client was only asked for when the anchor had passed. -/
theorem entries_derivation (settings : Settings) (calls : List Whole) :
    (∀ id e, ((create settings).afterAll calls).snapshot.entries.find? id = some e →
      ∃ before anchors makers now later,
        calls = before ++ .refresh (.ok anchors) makers now :: later ∧
          e.MadeBy id settings before anchors makers now) ∧
    ∀ past act future, (create settings).actsOfAll calls = past ++ act :: future →
      ∃ before call later done rest, calls = before ++ call :: later ∧
        past = (create settings).actsOfAll before ++ done ∧
        ((create settings).afterAll before).actsOf call = done ++ act :: rest ∧
        call.Permits settings done act := by
  refine ⟨fun id e h => exists_madeBy calls h, ?_⟩
  intro past act future h
  obtain ⟨before, call, later, done, rest, hcalls, hpast, hacts⟩ := exists_call_of_actsOfAll h
  have hpermits := permits_of_actsOf hacts
  rw [settings_afterAll] at hpermits
  exact ⟨before, call, later, done, rest, hcalls, hpast, hacts, hpermits⟩

/-- Settings with a check that every certificate passes. -/
def checkingSettings : Settings :=
  { sampleSettings with check := some ⟨fun _ _ => .accepted, .empty "roots"⟩ }

/-- A chain that holds a certificate twice. -/
def repeatedAnchor : Anchor := ⟨"shore", sampleAnchor.chain ++ sampleAnchor.chain⟩

/-- A store keeps a certificate that its chain holds twice under both aliases. -/
theorem repeated_chain_derivation :
    ∃ e c, ((create checkingSettings).afterAll
        [.refresh (.ok [repeatedAnchor]) .willing ⟨0⟩]).snapshot.entries.find? "shore" = some e ∧
      e.settings.store.entries = [("certificate-0", c), ("certificate-1", c)] ∧
      e.settings.delays.longest ≤ checkingSettings.delays.longest := by
  have hseen : (((create checkingSettings).afterAll
      [.refresh (.ok [repeatedAnchor]) .willing ⟨0⟩]).snapshot.entries.find? "shore").map
        (fun e => e.anchor) = some repeatedAnchor := by decide +kernel
  obtain ⟨e, he, hanchor⟩ := Option.map_eq_some_iff.mp hseen
  obtain ⟨_, _, _, _, _, _, hmade⟩ := (entries_derivation checkingSettings _).1 "shore" e he
  obtain ⟨chain, hderives⟩ := hmade.derives
  have hreadable := hderives.readable
  rw [hanchor] at hreadable
  obtain ⟨c, rest, rfl, hc, hrest⟩ := List.map_eq_cons_iff.mp hreadable.symm
  obtain ⟨d, others, rfl, hd, hothers⟩ := List.map_eq_cons_iff.mp hrest
  obtain rfl := List.map_eq_nil_iff.mp hothers
  obtain rfl : c = d := Except.ok.inj (hc.trans hd.symm)
  refine ⟨e, c, he, ?_, hderives.longest_le⟩
  rw [hderives.store]
  rfl

end AnchoredMetadata.Repository
