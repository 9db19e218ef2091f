import AnchoredMetadata.Anchor.Source
import Mathlib.Data.List.Induction

/-!
# What a source answers

A source answers with what the first of its locations gives that gives anything.
When none does, it answers with what it received last, however many failed calls
lie between; only a source that never received anything fails.
-/

namespace AnchoredMetadata.AnchorSource

/-! ## Replies -/

/-- Of so many replies the one at a position holds anchors, and none before it does. -/
structure FirstAnswer (count : Nat) (reply : Nat → Reply) (position : Nat)
    (anchors : List Anchor) : Prop where
  /-- The position is one of those. -/
  lt_count : position < count
  /-- Anchors came. -/
  answers : readReply (reply position) = .ok anchors
  /-- The replies before hold none. -/
  silent : ∀ i < position, ∃ cause, readReply (reply i) = .error cause

/-- None of so many replies holds anchors. -/
def Silent (count : Nat) (reply : Nat → Reply) : Prop :=
  ∀ i < count, ∃ cause, readReply (reply i) = .error cause

/-- In the last of some calls in which anchors came, these came. -/
def LastAnswer (count : Nat) (calls : List (Nat → Reply)) (anchors : List Anchor) : Prop :=
  ∃ before reply later position, calls = before ++ reply :: later ∧
    FirstAnswer count reply position anchors ∧ ∀ r ∈ later, Silent count r

/-- What a source of so many locations answers after earlier calls, and how many of the locations
it asks. -/
inductive Gives (earlier : List (Nat → Reply)) (reply : Nat → Reply) :
    Nat → Except SourceError (List Anchor) → Nat → Prop
  /-- The first location that gives anchors is the last one asked. -/
  | first {count position : Nat} {anchors : List Anchor}
      (h : FirstAnswer count reply position anchors) :
      Gives earlier reply count (.ok anchors) (position + 1)
  /-- No location gives anchors, and those received last are given again. -/
  | again {count : Nat} {anchors : List Anchor} (hs : Silent count reply)
      (h : LastAnswer count earlier anchors) :
      Gives earlier reply count (.ok anchors) count
  /-- No location ever gave anchors, and the failure is that of the last one. -/
  | failed {last : Nat} {cause : SourceError} (hs : Silent (last + 1) reply)
      (he : ∀ r ∈ earlier, Silent (last + 1) r) (h : readReply (reply last) = .error cause) :
      Gives earlier reply (last + 1) (.error cause) (last + 1)
  /-- There are no locations. -/
  | unconfigured :
      Gives earlier reply 0 (.error (.unavailable "no trust anchor uris configured")) 0

variable {count position : Nat} {reply other : Nat → Reply} {anchors : List Anchor}
  {cause : SourceError} {calls : List (Nat → Reply)}

/-- No reply is first where all are silent. -/
theorem FirstAnswer.not_silent (h : FirstAnswer count reply position anchors) :
    ¬ Silent count reply := by
  intro hs
  obtain ⟨cause, hc⟩ := hs position h.lt_count
  rw [h.answers] at hc
  exact absurd hc nofun

/-- Only one set of anchors comes first. -/
theorem FirstAnswer.unique {second : Nat} {others : List Anchor}
    (h : FirstAnswer count reply position anchors)
    (h' : FirstAnswer count reply second others) : others = anchors := by
  have hsame : second = position := by
    rcases Nat.lt_trichotomy second position with hlt | heq | hlt
    · obtain ⟨cause, hc⟩ := h.silent second hlt
      rw [h'.answers] at hc
      exact absurd hc nofun
    · exact heq
    · obtain ⟨cause, hc⟩ := h'.silent position hlt
      rw [h.answers] at hc
      exact absurd hc nofun
  rw [hsame] at h'
  exact Except.ok.inj (h'.answers.symm.trans h.answers)

/-- The first reply is the first of all but one, when that one holds no anchors. -/
theorem FirstAnswer.cons (h0 : readReply (reply 0) = .error cause)
    (h : FirstAnswer count (fun i => reply (i + 1)) position anchors) :
    FirstAnswer (count + 1) reply (position + 1) anchors where
  lt_count := Nat.succ_lt_succ h.lt_count
  answers := h.answers
  silent := by
    intro i hi
    cases i with
    | zero => exact ⟨cause, h0⟩
    | succ i => exact h.silent i (Nat.lt_of_succ_lt_succ hi)

theorem Silent.cons (h0 : readReply (reply 0) = .error cause)
    (h : Silent count fun i => reply (i + 1)) : Silent (count + 1) reply := by
  intro i hi
  cases i with
  | zero => exact ⟨cause, h0⟩
  | succ i => exact h i (Nat.lt_of_succ_lt_succ hi)

/-- The last answer is that of the last call, or that of the calls before when it is silent. -/
theorem lastAnswer_concat : LastAnswer count (calls ++ [reply]) anchors ↔
    (∃ position, FirstAnswer count reply position anchors) ∨
      Silent count reply ∧ LastAnswer count calls anchors := by
  constructor
  · rintro ⟨before, first, later, position, hsplit, hfirst, hlater⟩
    rcases List.eq_nil_or_concat later with rfl | ⟨later, last, rfl⟩
    · obtain ⟨_, hlast⟩ := List.append_inj' hsplit rfl
      obtain rfl := List.head_eq_of_cons_eq hlast
      exact Or.inl ⟨position, hfirst⟩
    · rw [List.concat_eq_append, ← List.cons_append, ← List.append_assoc] at hsplit
      obtain ⟨rfl, hlast⟩ := List.append_inj' hsplit rfl
      obtain rfl := List.head_eq_of_cons_eq hlast
      rw [List.concat_eq_append, List.forall_mem_append, List.forall_mem_singleton] at hlater
      exact Or.inr ⟨hlater.2, before, first, later, position, rfl, hfirst, hlater.1⟩
  · rintro (⟨position, hfirst⟩ | ⟨hs, before, first, later, position, rfl, hfirst, hlater⟩)
    · exact ⟨calls, reply, [], position, rfl, hfirst, nofun⟩
    · refine ⟨before, first, later ++ [reply], position, by simp, hfirst, ?_⟩
      rw [List.forall_mem_append, List.forall_mem_singleton]
      exact ⟨hlater, hs⟩

/-! ## One call -/

/-- What the failure of a call is, given the one before it. -/
inductive Failure (reply : Nat → Reply) (before : Option SourceError) :
    Nat → Option SourceError → Prop
  /-- Nothing was asked. -/
  | before : Failure reply before 0 before
  /-- It is that of the location asked last. -/
  | last {n : Nat} {cause : SourceError} (h : readReply (reply n) = .error cause) :
      Failure reply before (n + 1) (some cause)

/-- Locations with what comes back for them. -/
def queries (locations : List Url) (reply : Nat → Reply) : List (Url × Reply) :=
  locations.zipIdx.map fun (u, i) => (u, reply i)

theorem queries_cons (u : Url) (us : List Url) (reply : Nat → Reply) :
    queries (u :: us) reply = (u, reply 0) :: queries us fun i => reply (i + 1) := by
  simp [queries, List.zipIdx_succ, Function.comp_def]

/-- Asking stops at the first location with anchors, or asks all. -/
theorem ask_queries_cases (locations : List Url) (reply : Nat → Reply)
    (before : Option SourceError) :
    let round := ask before (queries locations reply)
    (∃ position anchors, FirstAnswer locations.length reply position anchors ∧
      round.result = .ok anchors ∧ round.asked = position + 1) ∨
    (Silent locations.length reply ∧ round.asked = locations.length ∧
      ∃ failure, Failure reply before locations.length failure ∧
        round.result = .error failure) := by
  induction locations generalizing reply before with
  | nil => exact Or.inr ⟨nofun, rfl, before, .before, rfl⟩
  | cons u us ih =>
    dsimp only
    rw [queries_cons, ask]
    cases h0 : readReply (reply 0) with
    | ok anchors => exact Or.inl ⟨0, anchors, ⟨Nat.succ_pos _, h0, nofun⟩, rfl, rfl⟩
    | error cause =>
      rcases ih (fun i => reply (i + 1)) (some cause) with
        ⟨position, anchors, hfirst, hresult, hasked⟩ | ⟨hs, hasked, failure, hfailure, hresult⟩
      · exact Or.inl ⟨position + 1, anchors, hfirst.cons h0, hresult, congrArg (· + 1) hasked⟩
      · refine Or.inr ⟨hs.cons h0, congrArg (· + 1) hasked, failure, ?_, hresult⟩
        rw [List.length_cons]
        generalize us.length = n at hfailure
        cases hfailure with
        | before => exact .last h0
        | last h => exact .last h

/-- What comes back for locations that are not asked does not matter. -/
theorem ask_queries_congr {locations : List Url} {before : Option SourceError}
    (h : ∀ i < (ask before (queries locations reply)).asked, other i = reply i) :
    ask before (queries locations other) = ask before (queries locations reply) := by
  induction locations generalizing reply other before with
  | nil => rfl
  | cons u us ih =>
    rw [queries_cons, ask] at h
    rw [queries_cons, queries_cons, ask, ask]
    cases h0 : readReply (reply 0) with
    | ok anchors =>
      rw [h0] at h
      rw [h 0 Nat.one_pos, h0]
    | error cause =>
      rw [h0] at h
      have hrest := ih fun i hi => h (i + 1) (Nat.succ_lt_succ hi)
      rw [h 0 (Nat.succ_pos _), h0]
      dsimp only
      rw [hrest]

/-- A call either receives anchors and remembers them, or leaves the source as it is. -/
theorem fetch_cases (source : AnchorSource) (reply : Nat → Reply) :
    let o := source.fetch reply
    let n := source.locations.length
    (∃ position anchors, FirstAnswer n reply position anchors ∧ o.result = .ok anchors ∧
      o.source = { source with lastKnown := some anchors } ∧ o.asked = position + 1) ∨
    (Silent n reply ∧ o.source = source ∧ o.asked = n ∧
      ((∃ anchors, source.lastKnown = some anchors ∧ o.result = .ok anchors) ∨
        (source.lastKnown = none ∧ ∃ failure, Failure reply none n failure ∧
          o.result =
            .error (failure.getD (.unavailable "no trust anchor uris configured"))))) := by
  dsimp only
  rw [fetch, ← queries]
  rcases ask_queries_cases source.locations reply none with
    ⟨position, anchors, hfirst, hresult, hasked⟩ | ⟨hs, hasked, failure, hfailure, hresult⟩
  · rw [hresult]
    exact Or.inl ⟨position, anchors, hfirst, rfl, rfl, hasked⟩
  · rw [hresult]
    cases source.lastKnown with
    | some anchors => exact Or.inr ⟨hs, rfl, hasked, Or.inl ⟨anchors, rfl, rfl⟩⟩
    | none => exact Or.inr ⟨hs, rfl, hasked, Or.inr ⟨rfl, failure, hfailure, rfl⟩⟩

/-- A source asks no location behind the one that answers. -/
theorem fetch_congr {source : AnchorSource}
    (h : ∀ i < (source.fetch reply).asked, other i = reply i) :
    source.fetch other = source.fetch reply := by
  have hasked : (source.fetch reply).asked =
      (ask none (queries source.locations reply)).asked := by
    rw [fetch, ← queries]
    split
    · rfl
    · split <;> rfl
  rw [hasked] at h
  rw [fetch, fetch, ← queries, ← queries, ask_queries_congr h]

/-- A call that gives anchors leaves them known, and another one leaves known what was. -/
theorem lastKnown_fetch (source : AnchorSource) (reply : Nat → Reply) :
    (source.fetch reply).source.lastKnown =
      (source.fetch reply).result.toOption.or source.lastKnown := by
  rcases source.fetch_cases reply with ⟨_, anchors, _, hresult, hsource, _⟩ |
    ⟨_, hsource, _, ⟨anchors, hknown, hresult⟩ | ⟨_, _, _, hresult⟩⟩
  · rw [hresult, hsource]
    rfl
  · rw [hresult, hsource, hknown]
    rfl
  · rw [hresult, hsource]
    rfl

/-- A source that knows anchors answers with anchors. -/
theorem exists_fetch_eq_ok {source : AnchorSource} (h : source.lastKnown ≠ none)
    (reply : Nat → Reply) : ∃ anchors, (source.fetch reply).result = .ok anchors := by
  rcases source.fetch_cases reply with ⟨_, anchors, _, hresult, _⟩ |
    ⟨_, _, _, ⟨anchors, _, hresult⟩ | ⟨hknown, _⟩⟩
  · exact ⟨anchors, hresult⟩
  · exact ⟨anchors, hresult⟩
  · exact absurd hknown h

/-- Receiving the known anchors again is the same as receiving nothing. -/
theorem fetch_known {source : AnchorSource} (h : source.lastKnown = some anchors)
    (hr : Silent source.locations.length reply ∨
      ∃ position, FirstAnswer source.locations.length reply position anchors) :
    (source.fetch reply).result = .ok anchors ∧ (source.fetch reply).source = source := by
  rcases source.fetch_cases reply with ⟨_, received, hfirst, hresult, hsource, _⟩ |
    ⟨hs, hsource, _, hcases⟩
  · rcases hr with hs | ⟨position, hagain⟩
    · exact absurd hs hfirst.not_silent
    · obtain rfl := hfirst.unique hagain
      rw [hresult, hsource, ← h]
      exact ⟨rfl, rfl⟩
  · rcases hcases with ⟨known, hknown, hresult⟩ | ⟨hnone, _⟩
    · obtain rfl := Option.some.inj (h.symm.trans hknown)
      exact ⟨hresult, hsource⟩
    · rw [h] at hnone
      exact absurd hnone nofun

/-- A source that knows nothing and receives nothing fails, and stays as it is. -/
theorem fetch_unknown {source : AnchorSource} (h : source.lastKnown = none)
    (hs : Silent source.locations.length reply) :
    ∃ cause, (source.fetch reply).result = .error cause ∧
      (source.fetch reply).source = source ∧
      (source.fetch reply).asked = source.locations.length := by
  rcases source.fetch_cases reply with ⟨_, _, hfirst, _⟩ |
    ⟨_, hsource, hasked, ⟨_, hknown, _⟩ | ⟨_, _, _, hresult⟩⟩
  · exact absurd hs hfirst.not_silent
  · rw [h] at hknown
    exact absurd hknown nofun
  · exact ⟨_, hresult, hsource, hasked⟩

/-! ## Calls one after another -/

/-- A source after calls. -/
def after (source : AnchorSource) (calls : List (Nat → Reply)) : AnchorSource :=
  calls.foldl (fun source reply => (source.fetch reply).source) source

theorem after_concat (source : AnchorSource) (calls : List (Nat → Reply)) (reply : Nat → Reply) :
    source.after (calls ++ [reply]) = ((source.after calls).fetch reply).source := by
  rw [after, List.foldl_append]
  rfl

/-- Calls keep the locations. -/
@[simp] theorem locations_after (source : AnchorSource) (calls : List (Nat → Reply)) :
    (source.after calls).locations = source.locations := by
  induction calls using List.reverseRecOn with
  | nil => rfl
  | append_singleton calls reply ih =>
    rw [after_concat]
    rcases (source.after calls).fetch_cases reply with ⟨_, _, _, _, hsource, _⟩ | ⟨_, hsource, _⟩
    · rw [hsource]
      exact ih
    · rw [hsource]
      exact ih

/-- What is known after calls is what came in the last one in which anything came. -/
theorem lastKnown_after_eq_some_iff {locations : List Url} :
    ((ofLocations locations).after calls).lastKnown = some anchors ↔
      LastAnswer locations.length calls anchors := by
  induction calls using List.reverseRecOn generalizing anchors with
  | nil =>
    constructor
    · exact nofun
    · rintro ⟨before, reply, later, position, hsplit, _⟩
      exact absurd hsplit (by simp)
  | append_singleton calls reply ih =>
    rw [after_concat, lastAnswer_concat, ← ih]
    rcases ((ofLocations locations).after calls).fetch_cases reply with
      ⟨position, received, hfirst, _, hsource, _⟩ | ⟨hs, hsource, _⟩
    · rw [locations_after] at hfirst
      rw [hsource]
      constructor
      · intro h
        obtain rfl := Option.some.inj h
        exact Or.inl ⟨position, hfirst⟩
      · rintro (⟨other, hother⟩ | ⟨hs, _⟩)
        · rw [hother.unique hfirst]
        · exact absurd hs hfirst.not_silent
    · rw [locations_after] at hs
      rw [hsource]
      constructor
      · exact fun h => Or.inr ⟨hs, h⟩
      · rintro (⟨other, hother⟩ | ⟨_, h⟩)
        · exact absurd hs hother.not_silent
        · exact h

/-- Nothing is known after calls in which nothing came. -/
theorem lastKnown_after_eq_none_iff {locations : List Url} :
    ((ofLocations locations).after calls).lastKnown = none ↔
      ∀ r ∈ calls, Silent locations.length r := by
  induction calls using List.reverseRecOn with
  | nil => exact ⟨fun _ => nofun, fun _ => rfl⟩
  | append_singleton calls reply ih =>
    rw [after_concat, List.forall_mem_append, List.forall_mem_singleton, ← ih]
    rcases ((ofLocations locations).after calls).fetch_cases reply with
      ⟨_, _, hfirst, _, hsource, _⟩ | ⟨hs, hsource, _⟩
    · rw [locations_after] at hfirst
      rw [hsource]
      exact ⟨nofun, fun h => absurd h.2 hfirst.not_silent⟩
    · rw [locations_after] at hs
      rw [hsource]
      exact ⟨fun h => ⟨h, hs⟩, And.left⟩

/-- Every call answers as it should. -/
theorem gives_fetch (locations : List Url) (calls : List (Nat → Reply)) (reply : Nat → Reply) :
    let o := ((ofLocations locations).after calls).fetch reply
    Gives calls reply locations.length o.result o.asked := by
  intro o
  have hlocations : ((ofLocations locations).after calls).locations = locations :=
    locations_after ..
  rcases ((ofLocations locations).after calls).fetch_cases reply with
    ⟨position, anchors, hfirst, hresult, _, hasked⟩ |
    ⟨hs, _, hasked, ⟨anchors, hknown, hresult⟩ | ⟨hknown, failure, hfailure, hresult⟩⟩
  · rw [hlocations] at hfirst
    rw [hresult, hasked]
    exact .first hfirst
  · rw [hlocations] at hs hasked
    rw [hresult, hasked]
    exact .again hs (lastKnown_after_eq_some_iff.mp hknown)
  · rw [hlocations] at hs hasked hfailure
    rw [hresult, hasked]
    have hearlier := lastKnown_after_eq_none_iff.mp hknown
    generalize locations.length = n at hs hearlier hfailure
    cases hfailure with
    | before => exact .unconfigured
    | last h => exact .failed hs hearlier h

end AnchoredMetadata.AnchorSource
