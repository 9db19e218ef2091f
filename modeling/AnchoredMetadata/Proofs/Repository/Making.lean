import AnchoredMetadata.Repository

/-!
# Making entries, step by step

An entry is made in two parts. What it is to be like follows from its anchor
alone and from the judge of its chain; then client, resolver and engine are
asked for. Only the second part makes a resolver, and a resolver that was made
is either handed out in an entry or destroyed at once.
-/

namespace AnchoredMetadata.Repository

open Time

/-! ## What an act does to resolvers -/

/-- Whether an act is the receipt of a resolver. -/
def Act.makes (n : Nat) : Act → Bool
  | .made m _ => m = n
  | _ => false

/-- Whether an act destroys a resolver. -/
def Act.destroys (n : Nat) : Act → Bool
  | .destroy m => m = n
  | _ => false

/-- How often acts destroy a resolver. -/
def destructions (acts : List Act) (n : Nat) : Nat := acts.countP (Act.destroys n)

/-- Whether a resolver is received among acts. -/
def Makes (acts : List Act) (n : Nat) : Prop := ∃ act ∈ acts, act.makes n = true

@[simp] theorem destructions_nil (n : Nat) : destructions [] n = 0 := rfl

@[simp] theorem destructions_cons (act : Act) (acts : List Act) (n : Nat) :
    destructions (act :: acts) n = destructions acts n + if act.destroys n then 1 else 0 :=
  List.countP_cons

@[simp] theorem destructions_append (acts later : List Act) (n : Nat) :
    destructions (acts ++ later) n = destructions acts n + destructions later n :=
  List.countP_append

@[simp] theorem not_makes_nil (n : Nat) : ¬ Makes [] n := by
  simp only [Makes, List.not_mem_nil, false_and, exists_false, not_false_eq_true]

@[simp] theorem makes_cons (act : Act) (acts : List Act) (n : Nat) :
    Makes (act :: acts) n ↔ act.makes n = true ∨ Makes acts n := by
  simp only [Makes, List.mem_cons, exists_eq_or_imp]

@[simp] theorem makes_append (acts later : List Act) (n : Nat) :
    Makes (acts ++ later) n ↔ Makes acts n ∨ Makes later n := by
  simp only [Makes, List.mem_append, or_and_right, exists_or]

/-! ## The two parts -/

/-- What the validator is asked about an anchor. -/
def questions (s : Settings) (makers : Makers) (anchor : Anchor) : List Act :=
  match anchor.certificates with
  | .ok (leaf :: _) => (judge makers s.check anchor.entityId leaf).2
  | _ => []

/-- What an entry of an anchor is to be like: when its chain expires first, and what its resolver
is told. -/
def prepare (s : Settings) (makers : Makers) (now : Instant) (anchor : Anchor) :
    Except Refusal (Instant × ResolverSettings) :=
  match anchor.certificates with
  | .error e => .error (.chain e)
  | .ok [] => .error (.chain (.empty anchor.entityId))
  | .ok (leaf :: rest) =>
    match (judge makers s.check anchor.entityId leaf).1 with
    | .error e => .error e
    | .ok () =>
      match Certificate.earliestExpiry (leaf :: rest) with
      | none => .error (.chain (.empty anchor.entityId))
      | some expiry =>
        match Location.ofEntity s.base anchor.entityId with
        | .error e => .error (.location e)
        | .ok location =>
          .ok (expiry, ResolverSettings.forEntity s.delays location anchor.entityId
            (TrustStore.ofChain anchor.entityId (leaf :: rest)) expiry now)

/-- Making an entry is preparing it and then asking for its parts. -/
theorem materialize_eq (s : Settings) (makers : Makers) (now : Instant) (made : Nat)
    (anchor : Anchor) :
    materialize s makers now made anchor =
      match prepare s makers now anchor with
      | .error e => ⟨.error e, made, questions s makers anchor⟩
      | .ok (expiry, settings) =>
        let making := assemble makers s.environment made anchor expiry settings
        { making with acts := questions s makers anchor ++ making.acts } := by
  unfold materialize prepare questions
  cases anchor.certificates with
  | error e => rfl
  | ok chain =>
    cases chain with
    | nil => rfl
    | cons leaf rest =>
      dsimp only
      cases (judge makers s.check anchor.entityId leaf).1 with
      | error e => rfl
      | ok _ =>
        cases Certificate.earliestExpiry (leaf :: rest) with
        | none => rfl
        | some expiry => cases Location.ofEntity s.base anchor.entityId <;> rfl

/-- What is prepared for an anchor: its chain was read, its first certificate judged, and its
metadata located. -/
theorem exists_of_prepare {s : Settings} {makers : Makers} {now : Instant} {anchor : Anchor}
    {expiry : Instant} {told : ResolverSettings}
    (h : prepare s makers now anchor = .ok (expiry, told)) :
    ∃ leaf rest location, anchor.certificates = .ok (leaf :: rest) ∧
      (judge makers s.check anchor.entityId leaf).1 = .ok () ∧
      Certificate.earliestExpiry (leaf :: rest) = some expiry ∧
      Location.ofEntity s.base anchor.entityId = .ok location ∧
      told = ResolverSettings.forEntity s.delays location anchor.entityId
        (TrustStore.ofChain anchor.entityId (leaf :: rest)) expiry now := by
  unfold prepare at h
  cases hchain : anchor.certificates with
  | error cause =>
    rw [hchain] at h
    exact absurd h nofun
  | ok chain =>
    rw [hchain] at h
    cases chain with
    | nil => exact absurd h nofun
    | cons leaf rest =>
      dsimp only at h
      cases hverdict : (judge makers s.check anchor.entityId leaf).1 with
      | error cause =>
        rw [hverdict] at h
        exact absurd h nofun
      | ok _ =>
        cases hexpiry : Certificate.earliestExpiry (leaf :: rest) with
        | none =>
          rw [hverdict, hexpiry] at h
          exact absurd h nofun
        | some first =>
          cases hlocation : Location.ofEntity s.base anchor.entityId with
          | error cause =>
            rw [hverdict, hexpiry, hlocation] at h
            exact absurd h nofun
          | ok location =>
            rw [hverdict, hexpiry, hlocation] at h
            obtain ⟨rfl, rfl⟩ := Prod.mk.inj (Except.ok.inj h)
            exact ⟨leaf, rest, location, rfl, hverdict, hexpiry, rfl, rfl⟩

/-- Questions to the validator touch no resolver. -/
theorem questions_untouched (s : Settings) (makers : Makers) (anchor : Anchor) (n : Nat) :
    ¬ Makes (questions s makers anchor) n ∧ destructions (questions s makers anchor) n = 0 := by
  unfold questions judge
  split
  · cases s.check with
    | none => simp
    | some k =>
      dsimp only
      split <;> simp [Act.makes, Act.destroys]
  · simp

/-! ## The balance of a making -/

/-- What a making does about resolvers, given how many were made before. -/
structure Making.Balanced (m : Making) (made : Nat) : Prop where
  /-- The count does not fall. -/
  le_made : made ≤ m.made
  /-- The resolvers received are those that were counted. -/
  makes_iff : ∀ n, Makes m.acts n ↔ made ≤ n ∧ n < m.made
  /-- An entry has the one resolver that was received, which stays. -/
  of_ok : ∀ e, m.result = .ok e →
    e.resolver = made ∧ m.made = made + 1 ∧ ∀ n, destructions m.acts n = 0
  /-- Without an entry whatever was received is destroyed. -/
  of_error : ∀ e, m.result = .error e →
    ∀ n, destructions m.acts n = if made ≤ n ∧ n < m.made then 1 else 0

/-- Asking for client, resolver and engine is balanced. -/
theorem assemble_balanced (makers : Makers) (environment : String) (made : Nat) (anchor : Anchor)
    (expiry : Instant) (settings : ResolverSettings) :
    (assemble makers environment made anchor expiry settings).Balanced made := by
  have hone (n : Nat) : (made ≤ n ∧ n < made + 1) ↔ made = n := by omega
  have hzero (n : Nat) : ¬ (made ≤ n ∧ n < made) := by omega
  unfold assemble
  dsimp only
  cases makers.client environment settings with
  | error e =>
    constructor <;> simp [Act.makes, Act.destroys, hzero]
  | ok _ =>
    cases makers.resolver settings with
    | error e =>
      constructor <;> simp [Act.makes, Act.destroys, hzero]
    | ok _ =>
      cases makers.engine settings with
      | error e =>
        constructor
        · exact Nat.le_succ made
        · intro n
          dsimp only
          rw [hone]
          simp [Act.makes]
        · intro x hx
          exact absurd hx (by simp)
        · intro x _ n
          dsimp only
          simp only [hone]
          simp [Act.destroys]
      | ok _ =>
        constructor
        · exact Nat.le_succ made
        · intro n
          dsimp only
          rw [hone]
          simp [Act.makes]
        · intro e he
          obtain rfl := Except.ok.inj he
          simp [Act.destroys]
        · intro x hx
          exact absurd hx (by simp)

/-- Making an entry is balanced. -/
theorem materialize_balanced (s : Settings) (makers : Makers) (now : Instant) (made : Nat)
    (anchor : Anchor) : (materialize s makers now made anchor).Balanced made := by
  have hquiet := questions_untouched s makers anchor
  have hzero (n : Nat) : ¬ (made ≤ n ∧ n < made) := by omega
  rw [materialize_eq]
  cases prepare s makers now anchor with
  | error e => constructor <;> simp [hquiet, hzero]
  | ok p =>
    have h := assemble_balanced makers s.environment made anchor p.1 p.2
    constructor
    · exact h.le_made
    · intro n
      simp only [makes_append, (hquiet n).1, false_or, h.makes_iff n]
    · intro e he
      simpa only [destructions_append, (hquiet _).2, Nat.zero_add] using h.of_ok e he
    · intro e he n
      simpa only [destructions_append, (hquiet n).2, Nat.zero_add] using h.of_error e he n

section Made

variable {s : Settings} {makers : Makers} {now : Instant} {made : Nat} {anchor : Anchor}
  {e : Entry}

/-- When client, resolver and engine are there, the entry is made of what was given. -/
theorem assemble_eq_of_ok {environment : String} {expiry : Instant} {settings : ResolverSettings}
    (h : (assemble makers environment made anchor expiry settings).result = .ok e) :
    e = ⟨anchor, made, expiry, settings⟩ := by
  unfold assemble at h
  dsimp only at h
  cases hc : makers.client environment settings <;> simp only [hc] at h
  · simp at h
  · cases hr : makers.resolver settings <;> simp only [hr] at h
    · simp at h
    · cases he : makers.engine settings <;> simp only [he] at h
      · simp at h
      · exact (Except.ok.inj h).symm

/-- An entry is as it was prepared. -/
theorem prepare_of_materialize (h : (materialize s makers now made anchor).result = .ok e) :
    prepare s makers now anchor = .ok (e.expiry, e.settings) ∧ e.anchor = anchor := by
  rw [materialize_eq] at h
  cases hp : prepare s makers now anchor with
  | error cause =>
    rw [hp] at h
    exact absurd h nofun
  | ok p =>
    rw [hp] at h
    obtain rfl := assemble_eq_of_ok h
    exact ⟨rfl, rfl⟩

/-- An entry is of the anchor that it is made of. -/
theorem anchor_of_materialize (h : (materialize s makers now made anchor).result = .ok e) :
    e.anchor = anchor := (prepare_of_materialize h).2

end Made

/-! ## A sample -/

/-- Settings for metadata that is kept in files. -/
def sampleSettings : Settings :=
  .standard
    ⟨"file".toList, some ⟨[], [], .name [], none⟩, .segments ["metadata".toList], none, none⟩

/-- An anchor whose one certificate can be read and is valid until the end of 2049. -/
def sampleAnchor : Anchor :=
  ⟨"shore",
    ["MDwwMgIBATADBgEqMAAwGhcLMjQwMTAxMDAwMFoXCzQ5MTIzMTIzNTlaMAAwCDADBgEqAwEAMAMGASoDAQA="]⟩

/-- An anchor of the same entity whose certificate has another serial number. -/
def renewedAnchor : Anchor :=
  ⟨"shore",
    ["MDwwMgIBAjADBgEqMAAwGhcLMjQwMTAxMDAwMFoXCzQ5MTIzMTIzNTlaMAAwCDADBgEqAwEAMAMGASoDAQA="]⟩

end AnchoredMetadata.Repository
