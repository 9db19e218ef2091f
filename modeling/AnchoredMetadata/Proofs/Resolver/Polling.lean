import AnchoredMetadata.Proofs.Metadata.SigningKeys
import AnchoredMetadata.Proofs.Metadata.Survivors
import AnchoredMetadata.Proofs.Repository.Derivation

/-!
# What polling publishes

A resolver polls in rounds. After every round it publishes what its filters left
of the last document that could be read, whatever came before or failed since.
So a credential is trusted only for a key that this document publishes, in a
descriptor of which, if its role is checked, every certificate was accepted.
-/

namespace AnchoredMetadata

open Time

namespace Resolver

/-! ## Rounds -/

/-- What one poll meets. The validator may look at a clock, so every round has its own. -/
structure Round where
  /-- What comes back for the request. -/
  reply : Reply
  /-- When it comes. -/
  moment : Instant
  /-- How certificates are judged then. -/
  validator : Validator

/-- The metadata that a round brings, if its document can be read. -/
def Round.accepted? (x : Round) : Option Metadata :=
  x.reply.document.toOption.bind fun document => (Metadata.read document).toOption

/-- What filters for some roles leave of a document in a round, judged against a store. -/
def Round.left (x : Round) (roles : List Role) (store : TrustStore) (m : Metadata) :
    Option Metadata :=
  (ChainFilter.runAll (ChainFilter.forRoles roles x.validator store) m).metadata

/-- The last of some rounds of which the document could be read, with its metadata. -/
def lastAccepted? (xs : List Round) : Option (Round × Metadata) :=
  xs.reverse.findSome? fun x => x.accepted?.map fun m => (x, m)

/-- A resolver whose filters have another validator. -/
def judgedBy (r : Resolver) (validator : Validator) : Resolver :=
  { r with filters := r.filters.map fun f => { f with validator := validator } }

/-- A resolver at the end of its pause. -/
def rouse (r : Resolver) : Resolver :=
  match r.phase with
  | .pausing wakeAt => r.wake wakeAt
  | _ => r

/-- A round, from the end of the pause before it to the next pause. -/
def round (r : Resolver) (x : Round) : Resolver :=
  (r.rouse.judgedBy x.validator).poll x.reply x.moment

/-- Rounds one after another. -/
def rounds (r : Resolver) (xs : List Round) : Resolver := xs.foldl round r

theorem rounds_concat (r : Resolver) (xs : List Round) (x : Round) :
    r.rounds (xs ++ [x]) = (r.rounds xs).round x := by
  rw [rounds, List.foldl_append]
  rfl

/-- With one more round the last document is that of the round, if it can be read. -/
theorem lastAccepted?_concat (xs : List Round) (x : Round) :
    lastAccepted? (xs ++ [x]) = (x.accepted?.map fun m => (x, m)).or (lastAccepted? xs) := by
  rw [lastAccepted?, List.reverse_concat, List.findSome?_cons]
  cases x.accepted? <;> rfl

/-! ## One round -/

section Rounds

variable {r : Resolver} {settings : ResolverSettings} {requireValid : Bool} {roles : List Role}

/-- A poll publishes what is left of its document and pauses; without one it only pauses. -/
theorem poll_eq (hphase : r.phase = .waiting) (hstop : r.stopRequested = false) (reply : Reply)
    (now : Instant) :
    r.poll reply now =
      match r.outcome reply with
      | .ok o => { r with
          phase := .pausing (now.after (r.pauseAfter true))
          metadata := o.metadata
          refreshedAt := some now }
      | .error _ => { r with phase := .pausing (now.after (r.pauseAfter false)) } := by
  unfold poll outcome receive
  rw [hphase]
  dsimp only
  cases reply.document with
  | error cause => simp [pause, hstop, process, publish, note, pauseAfter]
  | ok document =>
    dsimp only [process]
    cases Metadata.read document with
    | error cause => simp [pause, hstop, publish, note, pauseAfter]
    | ok m => simp [pause, hstop, publish, note, pauseAfter]

/-- A resolver between two polls, as it was started with some settings. -/
structure Polls (r : Resolver) (settings : ResolverSettings) (requireValid : Bool)
    (roles : List Role) : Prop where
  /-- It is told the same as at the start. -/
  settings_eq : r.settings = settings
  /-- It has the same filters as at the start, but for the validator. -/
  filters_eq : ∃ validator, r.filters = (start settings requireValid roles validator).filters
  /-- Nobody asked it to stop. -/
  unstopped : r.stopRequested = false
  /-- It waits for a reply or pauses. -/
  between : r.phase = .waiting ∨ ∃ wakeAt, r.phase = .pausing wakeAt

/-- What the filters that a resolver is started with leave of a document in a round. -/
def Round.filtered (x : Round) (settings : ResolverSettings) (requireValid : Bool)
    (roles : List Role) (m : Metadata) : Option Metadata :=
  (ChainFilter.runAll (start settings requireValid roles x.validator).filters m).metadata

/-- A new resolver is between two polls. -/
theorem polls_start (settings : ResolverSettings) (requireValid : Bool) (roles : List Role)
    (validator : Validator) :
    (start settings requireValid roles validator).Polls settings requireValid roles :=
  ⟨rfl, ⟨validator, rfl⟩, rfl, Or.inl rfl⟩

/-- The filters of a resolver with another validator are those it would be started with. -/
theorem filters_judgedBy_start (settings : ResolverSettings) (requireValid : Bool)
    (roles : List Role) (before validator : Validator) :
    ((start settings requireValid roles before).judgedBy validator).filters =
      (start settings requireValid roles validator).filters := by
  cases requireValid with
  | true => simp [judgedBy, start, ChainFilter.forRoles]
  | false => rfl

/-- At the end of its pause a resolver waits for a reply. -/
theorem Polls.rouse_eq (h : r.Polls settings requireValid roles) :
    r.rouse = { r with phase := .waiting } := by
  unfold rouse
  rcases h.between with hphase | ⟨wakeAt, hphase⟩
  · rw [hphase]
    exact congrArg (fun phase => { r with phase := phase }) hphase
  · rw [hphase]
    simp [wake, hphase, Instant.le_def]

/-- A round publishes what the filters leave of its document, notes the time and begins the longest
pause. Without a document it only begins the shortest pause. -/
theorem Polls.round_eq (h : r.Polls settings requireValid roles) (x : Round) :
    r.round x = match x.accepted? with
      | some m => ⟨settings, (start settings requireValid roles x.validator).filters,
          .pausing (x.moment.after settings.delays.raised.longest), false,
          x.filtered settings requireValid roles m, some x.moment⟩
      | none => ⟨settings, (start settings requireValid roles x.validator).filters,
          .pausing (x.moment.after settings.delays.raised.shortest), false, r.metadata,
          r.refreshedAt⟩ := by
  obtain ⟨before, hfilters⟩ := h.filters_eq
  let waiting : Resolver := ⟨settings, (start settings requireValid roles x.validator).filters,
    .waiting, false, r.metadata, r.refreshedAt⟩
  have hwaiting : r.rouse.judgedBy x.validator = waiting := by
    have hjudged := filters_judgedBy_start settings requireValid roles before x.validator
    simp only [judgedBy, waiting] at hjudged ⊢
    rw [h.rouse_eq, ← hjudged, ← hfilters, ← h.settings_eq, ← h.unstopped]
  rw [Resolver.round, hwaiting, poll_eq rfl rfl, outcome, Round.accepted?]
  cases x.reply.document with
  | error cause => rfl
  | ok document =>
    cases hread : Metadata.read document with
    | error cause =>
      simp only [hread, Except.toOption, Option.bind_some]
      rfl
    | ok m =>
      simp only [hread, Except.toOption, Option.bind_some]
      rfl

/-- After a round a resolver is between two polls again. -/
theorem Polls.round (h : r.Polls settings requireValid roles) (x : Round) :
    (r.round x).Polls settings requireValid roles := by
  rw [h.round_eq x]
  cases x.accepted? with
  | none => exact ⟨rfl, ⟨x.validator, rfl⟩, rfl, Or.inr ⟨_, rfl⟩⟩
  | some m => exact ⟨rfl, ⟨x.validator, rfl⟩, rfl, Or.inr ⟨_, rfl⟩⟩

/-! ## Many rounds -/

/-- After any rounds a resolver is between two polls. It publishes what its filters left of the
last document that could be read, and has noted when that was. -/
theorem published_rounds (settings : ResolverSettings) (requireValid : Bool) (roles : List Role)
    (validator : Validator) (xs : List Round) :
    let r := (start settings requireValid roles validator).rounds xs
    r.Polls settings requireValid roles ∧
      r.metadata = ((lastAccepted? xs).bind fun last =>
        last.1.filtered settings requireValid roles last.2) ∧
      r.refreshedAt = (lastAccepted? xs).map fun last => last.1.moment := by
  induction xs using List.reverseRecOn with
  | nil => exact ⟨polls_start settings requireValid roles validator, rfl, rfl⟩
  | append_singleton xs x ih =>
    obtain ⟨hpolls, hmetadata, hnoted⟩ := ih
    dsimp only at hpolls hmetadata hnoted ⊢
    rw [rounds_concat, lastAccepted?_concat]
    refine ⟨hpolls.round x, ?_⟩
    rw [hpolls.round_eq x]
    cases x.accepted? with
    | none =>
      rw [Option.map_none, Option.none_or]
      exact ⟨hmetadata, hnoted⟩
    | some m => exact ⟨rfl, rfl⟩

/-- After any rounds a resolver is between two polls, and publishes what its filters left of the
last document that could be read. -/
theorem polls_rounds (settings : ResolverSettings) (roles : List Role) (validator : Validator)
    (xs : List Round) :
    ((start settings true roles validator).rounds xs).Polls settings true roles ∧
      ((start settings true roles validator).rounds xs).metadata =
        (lastAccepted? xs).bind fun last => last.1.left roles settings.store last.2 := by
  obtain ⟨hpolls, hmetadata, _⟩ := published_rounds settings true roles validator xs
  exact ⟨hpolls, hmetadata⟩

end Rounds

/-! ## Who is trusted -/

/-- A document lets a key be trusted for a purpose: an entity with the identifier has a descriptor
of the role that publishes the key, of which, if the role is checked, every certificate can be
decoded and is accepted against a store. -/
def Vouches (m : Metadata) (roles : List Role) (validator : Validator) (store : TrustStore)
    (p : Purpose) (key : List UInt8) : Prop :=
  ∃ e ∈ m.entities, e.id = p.entityId ∧ ∃ d ∈ e.roles, d.role = p.role ∧ d.Publishes key ∧
    (p.role ∈ roles → ∀ k ∈ d.keys, ∀ text ∈ k.certificates,
      ∃ c, Certificate.ofBase64 text = .ok c ∧ validator c store = .accepted)

/-- A key that is trusted for what filters leave of a document is one that the document vouches
for. -/
theorem vouches_of_isTrusted {x : Round} {m : Metadata} {roles : List Role} {store : TrustStore}
    {credential : Certificate} {p : Purpose}
    (h : SigningTrust.isTrusted (x.left roles store m) credential p = true) :
    Vouches m roles x.validator store p credential.publicKey := by
  obtain ⟨kept, e, hkept, hfind, d, hd, hrole, hpublishes⟩ := SigningTrust.isTrusted_iff.mp h
  have hfirst : kept.entities.find? (fun e => e.id = p.entityId) = some e := hfind
  have hid : e.id = p.entityId := by simpa using List.find?_some hfirst
  obtain ⟨old, hold, hsame, hroles⟩ :=
    ChainFilter.exists_entity_of_runAll hkept (List.mem_of_find?_eq_some hfirst)
  obtain ⟨hin, hsurvives⟩ := hroles d hd
  refine ⟨old, hold, hsame.trans hid, d, hin, hrole, hpublishes, ?_⟩
  intro hchecked
  have hfilter : (⟨p.role, x.validator, store⟩ : ChainFilter) ∈
      ChainFilter.forRoles roles x.validator store := List.mem_map_of_mem hchecked
  exact (ChainFilter.survivesRole_iff hrole).mp (hsurvives _ hfilter)

/-- The store of an entry's resolver is made of the chain of the entry's anchor. -/
theorem store_of_materialize {s : Repository.Settings} {makers : Repository.Makers} {now : Instant}
    {made : Nat} {a : Anchor} {e : Repository.Entry}
    (h : (Repository.materialize s makers now made a).result = .ok e) :
    ∃ chain, a.certificates = .ok chain ∧
      e.settings.store = TrustStore.ofChain a.entityId chain := by
  obtain ⟨hprepare, _⟩ := Repository.prepare_of_materialize h
  obtain ⟨leaf, rest, hchain, hderives⟩ := Repository.derives_of_prepare hprepare
  refine ⟨leaf :: rest, hchain, ?_⟩
  calc e.settings.store = ⟨e.settings.store.name, e.settings.store.entries⟩ := rfl
    _ = ⟨(TrustStore.ofChain a.entityId (leaf :: rest)).name,
          (TrustStore.ofChain a.entityId (leaf :: rest)).entries⟩ := by
      rw [hderives.name, hderives.store, TrustStore.name_ofChain, TrustStore.entries_ofChain]

/-- Whatever a resolver that checks some roles polled, a credential is only trusted when the last
document that could be read vouches for its key, judged against the resolver's store by the
validator of that round; and nothing is trusted before there was such a document and while filters
leave nothing of it. In an entry the store is made of the chain of the entry's anchor. -/
theorem isTrusted_rounds (settings : ResolverSettings) (roles : List Role) (validator : Validator)
    (xs : List Round) (credential : Certificate) (p : Purpose) :
    let r := (start settings true roles validator).rounds xs
    (SigningTrust.isTrusted r.metadata credential p = true →
      ∃ x m, lastAccepted? xs = some (x, m) ∧
        Vouches m roles x.validator settings.store p credential.publicKey) ∧
    (lastAccepted? xs = none → SigningTrust.isTrusted r.metadata credential p = false) ∧
    (∀ x m, lastAccepted? xs = some (x, m) → x.left roles settings.store m = none →
      SigningTrust.isTrusted r.metadata credential p = false) ∧
    ∀ s makers now made a e, (Repository.materialize s makers now made a).result = .ok e →
      e.settings = settings →
        ∃ chain, a.certificates = .ok chain ∧
          settings.store = TrustStore.ofChain a.entityId chain := by
  intro r
  have hmetadata := (polls_rounds settings roles validator xs).2
  refine ⟨?_, ?_, ?_, ?_⟩
  · intro htrusted
    rw [hmetadata] at htrusted
    cases hlast : lastAccepted? xs with
    | none =>
      rw [hlast] at htrusted
      exact absurd htrusted nofun
    | some last =>
      rw [hlast] at htrusted
      exact ⟨last.1, last.2, rfl, vouches_of_isTrusted htrusted⟩
  · intro hnone
    rw [hmetadata, hnone]
    rfl
  · intro x m hlast hnone
    rw [hmetadata, hlast, Option.bind_some, hnone]
    rfl
  · rintro s makers now made a e he rfl
    exact store_of_materialize he

/-- What the resolver of an entity with an empty store is told. -/
def sampleTold : ResolverSettings :=
  ⟨Repository.sampleSettings.base, "shore", .empty "shore", .standard⟩

/-- A document with a provider that signs with the key of the sample anchor. -/
def sampleDocument : Metadata :=
  .entity ⟨"shore", [⟨.identityProvider, [⟨.signing, Repository.sampleAnchor.chain⟩]⟩]⟩

/-- A round that brings the document, in which every certificate is accepted. -/
def sampleRound : Round :=
  ⟨.answered 200 (Text.utf8Encode sampleDocument.write), ⟨0⟩, fun _ _ => .accepted⟩

/-- A round whose document cannot be read. -/
def brokenRound : Round := ⟨.answered 200 [], ⟨1⟩, fun _ _ => .accepted⟩

/-- A document goes on vouching for its keys when the next one cannot be read. -/
theorem trusted_after_broken_round :
    ∃ credential, SigningTrust.isTrusted
        ((start sampleTold true [.identityProvider] sampleRound.validator).rounds
          [sampleRound, brokenRound]).metadata credential ⟨"shore", .identityProvider⟩ = true ∧
      ∃ x m, lastAccepted? [sampleRound, brokenRound] = some (x, m) ∧
        Vouches m [.identityProvider] x.validator sampleTold.store ⟨"shore", .identityProvider⟩
          credential.publicKey := by
  have hseen : (Repository.sampleAnchor.certificates.toOption.bind List.head?).any
      (fun c => SigningTrust.isTrusted
        ((start sampleTold true [.identityProvider] sampleRound.validator).rounds
          [sampleRound, brokenRound]).metadata c ⟨"shore", .identityProvider⟩) = true := by
    decide +kernel
  obtain ⟨credential, _, htrusted⟩ := (Option.any_eq_true _ _).mp hseen
  exact ⟨credential, htrusted, (isTrusted_rounds sampleTold [.identityProvider]
    sampleRound.validator [sampleRound, brokenRound] credential _).1 htrusted⟩

end Resolver

end AnchoredMetadata
