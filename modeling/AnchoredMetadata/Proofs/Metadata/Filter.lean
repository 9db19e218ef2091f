import AnchoredMetadata.Metadata.Filter

/-!
# What a chain filter leaves

A filter either discards a document or cuts out what does not survive. A role
descriptor survives if it is of another role or all its certificates are
accepted, an entity if one of its roles does, and a group if something in it does.
Whether a document is discarded depends on single descriptors only: on one that
cannot be decoded or on which the validator breaks down, once checking gets there.
-/

namespace AnchoredMetadata.ChainFilter

variable {α β : Type}

/-! ## Steps that stop or settle on a value -/

/-- A step stops if something holds, and comes to a value otherwise. -/
def Step.Settles (s : Step α) (p : Prop) (a : α) : Prop :=
  (p → ∃ i, s.result = .error i) ∧ (¬ p → s.result = .ok a)

namespace Step

variable {s : Step α} {p q : Prop} {a b : α} {c : β}

/-- A step that does nothing never stops. -/
theorem settles_pure (a : α) : (pure a : Step α).Settles False a :=
  ⟨False.elim, fun _ => rfl⟩

/-- A report never stops. -/
theorem settles_report (e : Event) : (report e).Settles False () :=
  ⟨False.elim, fun _ => rfl⟩

/-- What a step settles on may be said in other words. -/
theorem Settles.congr (h : s.Settles p a) (hpq : p ↔ q) (hab : a = b) : s.Settles q b := by
  rw [← hpq, ← hab]
  exact h

/-- One step after another stops if the first or the second stops. -/
theorem Settles.andThen (hs : s.Settles p a) (next : α → Step β) (hnext : (next a).Settles q c) :
    (s >>= next).Settles (p ∨ q) c := by
  change (s.andThen next).Settles (p ∨ q) c
  unfold Step.andThen
  by_cases hp : p
  · obtain ⟨i, hi⟩ := hs.1 hp
    rw [hi]
    exact ⟨fun _ => ⟨i, rfl⟩, fun hnot => absurd (Or.inl hp) hnot⟩
  · rw [hs.2 hp]
    constructor
    · intro hpq
      exact hnext.1 (hpq.resolve_left hp)
    · intro hnot
      exact hnext.2 fun hq => hnot (Or.inr hq)

/-- A step whose value is used settles as it does alone. -/
theorem Settles.map (hs : s.Settles p a) (g : α → β) :
    (s >>= fun x => pure (g x)).Settles p (g a) :=
  (hs.andThen (fun x => pure (g x)) (settles_pure (g a))).congr (iff_of_eq (or_false p)) rfl

/-- After a report a step settles as it does alone. -/
theorem Settles.report {t : Step α} (h : t.Settles p a) (e : Event) :
    (Step.report e >>= fun _ => t).Settles p a :=
  ((settles_report e).andThen (fun _ => t) h).congr (iff_of_eq (false_or p)) rfl

end Step

/-! ## Checking one after another -/

/-- Past elements that pass a test, some element is reached of which something holds. -/
def Reaches (test : α → Bool) (p : α → Prop) (xs : List α) : Prop :=
  ∃ before x after, xs = before ++ x :: after ∧ (∀ y ∈ before, test y = true) ∧ p x

theorem not_reaches_nil (test : α → Bool) (p : α → Prop) : ¬ Reaches test p [] := by
  rintro ⟨before, x, after, he, _⟩
  cases before <;> exact absurd he (by simp)

/-- The first element is reached, and others past it if it passes. -/
theorem reaches_cons {test : α → Bool} {p : α → Prop} {x : α} {xs : List α} :
    Reaches test p (x :: xs) ↔ p x ∨ test x = true ∧ Reaches test p xs := by
  constructor
  · rintro ⟨before, y, after, he, hbefore, hy⟩
    cases before with
    | nil =>
      obtain ⟨rfl, _⟩ := List.cons.inj he
      exact Or.inl hy
    | cons z before =>
      obtain ⟨rfl, hxs⟩ := List.cons.inj he
      obtain ⟨hz, hbefore⟩ := List.forall_mem_cons.mp hbefore
      exact Or.inr ⟨hz, before, y, after, hxs, hbefore, hy⟩
  · rintro (hx | ⟨hx, before, y, after, rfl, hbefore, hy⟩)
    · exact ⟨[], x, xs, rfl, List.forall_mem_nil _, hx⟩
    · exact ⟨x :: before, y, after, rfl, List.forall_mem_cons.mpr ⟨hx, hbefore⟩, hy⟩

/-- Checks up to the first that fails stop where one is reached that stops, and otherwise say
whether all pass. -/
theorem settles_checks (check : α → Step Bool) (checks : List α → Step Bool)
    {test : α → Bool} {p : α → Prop} (hnil : checks [] = pure true)
    (hcons : ∀ x xs, checks (x :: xs) = do
      if ← check x then checks xs else return false)
    (h : ∀ x, (check x).Settles (p x) (test x)) (xs : List α) :
    (checks xs).Settles (Reaches test p xs) (xs.all test) := by
  induction xs with
  | nil =>
    rw [hnil]
    exact (Step.settles_pure true).congr (iff_of_false id (not_reaches_nil test p)) rfl
  | cons x xs ih =>
    rw [hcons]
    cases hx : test x with
    | true =>
      refine ((hx ▸ h x).andThen (fun b : Bool => if b then checks xs else pure false) ih).congr
        ?_ ?_
      · rw [reaches_cons, hx]
        simp
      · rw [List.all_cons, hx, Bool.true_and]
    | false =>
      refine ((hx ▸ h x).andThen (fun b : Bool => if b then checks xs else pure false)
        (Step.settles_pure false)).congr ?_ ?_
      · rw [reaches_cons, hx]
        simp
      · rw [List.all_cons, hx, Bool.false_and]

/-! ## What discards a document -/

section Discards

variable (f : ChainFilter)

/-- Whether the validator accepts a certificate. -/
def accepts (c : Certificate) : Bool := f.validator c f.store = .accepted

/-- The validator breaks down on one of some certificates, and accepts all before it. -/
def BreaksOn (certificates : List Certificate) : Prop :=
  Reaches f.accepts (fun c => f.validator c f.store = .crashed) certificates

/-- Whether a certificate in base64 can be decoded and is accepted. -/
def acceptsText (text : String) : Bool :=
  match Certificate.ofBase64 text with
  | .ok c => f.accepts c
  | .error _ => false

/-- Whether every certificate of a key can be decoded and is accepted. -/
def passes (k : KeyDescriptor) : Bool := k.certificates.all f.acceptsText

/-- A key holds a certificate that cannot be decoded, or all can be decoded and the validator
breaks down. -/
def FailsAt (k : KeyDescriptor) : Prop :=
  (∃ text ∈ k.certificates, ∃ cause, Certificate.ofBase64 text = .error cause) ∨
    ∃ certificates, k.decode = .ok certificates ∧ f.BreaksOn certificates

/-- Checking a descriptor of the filter's role reaches a key at which it fails. -/
def FailsIn (r : RoleDescriptor) : Prop := r.role = f.role ∧ Reaches f.passes f.FailsAt r.keys

/-- Checking fails in some descriptor of an entity. -/
def FailsWithin (e : Entity) : Prop := ∃ r ∈ e.roles, f.FailsIn r

/-- Checking fails in some descriptor of a document. -/
def Discards (m : Metadata) : Prop := ∃ e ∈ m.entities, f.FailsWithin e

/-! ## What survives -/

/-- Whether a descriptor is of another role or all its certificates are accepted. -/
def survivesRole (r : RoleDescriptor) : Bool := r.role ≠ f.role || r.keys.all f.passes

/-- Whether a descriptor of an entity survives. -/
def survivesEntity (e : Entity) : Bool := e.roles.any f.survivesRole

/-- An entity with the descriptors that survive. -/
def trimEntity (e : Entity) : Entity := ⟨e.id, e.roles.filter f.survivesRole⟩

mutual

/-- Whether an entity or a nested group of a group survives. -/
def survivesGroup : Group → Bool
  | .mk _ _ entities groups => entities.any f.survivesEntity || survivesAny groups

/-- Whether one of some groups survives. -/
def survivesAny : List Group → Bool
  | [] => false
  | g :: rest => survivesGroup g || survivesAny rest

end

mutual

/-- A group with the entities and nested groups that survive, and with what survives of them. -/
def trimGroup : Group → Group
  | .mk name id entities groups =>
    .mk name id ((entities.filter f.survivesEntity).map f.trimEntity) (trimGroups groups)

/-- What survives of some groups. -/
def trimGroups : List Group → List Group
  | [] => []
  | g :: rest => if f.survivesGroup g then trimGroup g :: trimGroups rest else trimGroups rest

end

/-- Whether the root of a document survives. -/
def survives : Metadata → Bool
  | .entity e => f.survivesEntity e
  | .group g => f.survivesGroup g

/-- A document with what survives of it. -/
def trim : Metadata → Metadata
  | .entity e => .entity (f.trimEntity e)
  | .group g => .group (f.trimGroup g)

/-- One of some groups survives when it does by itself. -/
theorem survivesAny_eq (groups : List Group) :
    f.survivesAny groups = groups.any f.survivesGroup := by
  induction groups with
  | nil => rfl
  | cons g rest ih => rw [survivesAny, ih, List.any_cons]

example (f : ChainFilter) (name : String) :
    f.survivesGroup (.mk name none [] [.mk none none [⟨"shore", []⟩] []]) = false := rfl

/-- The groups that survive stand in their order. -/
theorem trimGroups_eq (groups : List Group) :
    f.trimGroups groups = (groups.filter f.survivesGroup).map f.trimGroup := by
  induction groups with
  | nil => rfl
  | cons g rest ih =>
    rw [trimGroups, ih, List.filter_cons]
    split <;> rfl

end Discards

/-! ## Where the steps of a filter settle -/

section Steps

variable {f : ChainFilter}

/-- Asking about a certificate stops if the validator breaks down. -/
theorem settles_checkCertificate (entity : String) (c : Certificate) :
    (f.checkCertificate entity c).Settles (f.validator c f.store = .crashed) (f.accepts c) := by
  unfold checkCertificate accepts
  cases f.validator c f.store with
  | accepted => exact ⟨nofun, fun _ => rfl⟩
  | rejected reason => exact ⟨nofun, fun _ => rfl⟩
  | crashed => exact ⟨fun _ => ⟨_, rfl⟩, fun hnot => absurd rfl hnot⟩

/-- Asking about certificates stops if the validator breaks down past accepted ones. -/
theorem settles_checkCertificates (entity : String) (certificates : List Certificate) :
    (f.checkCertificates entity certificates).Settles (f.BreaksOn certificates)
      (certificates.all f.accepts) := by
  have hcons (c : Certificate) (rest : List Certificate) :
      f.checkCertificates entity (c :: rest) = do
        if ← f.checkCertificate entity c then f.checkCertificates entity rest
        else return false := rfl
  exact settles_checks (f.checkCertificate entity) (f.checkCertificates entity) rfl hcons
    (settles_checkCertificate entity) certificates

/-- Certificates can all be decoded, or one of them cannot. -/
theorem listOfBase64_cases (texts : List String) :
    (∃ cause, Certificate.listOfBase64 texts = .error cause ∧
      ∃ text ∈ texts, Certificate.ofBase64 text = .error cause) ∨
    ∃ certificates, Certificate.listOfBase64 texts = .ok certificates ∧
      (∀ text ∈ texts, ∀ cause, Certificate.ofBase64 text ≠ .error cause) ∧
      texts.all f.acceptsText = certificates.all f.accepts := by
  induction texts with
  | nil => exact Or.inr ⟨[], rfl, nofun, rfl⟩
  | cons text rest ih =>
    have hcons : Certificate.listOfBase64 (text :: rest) = do
        return (← Certificate.ofBase64 text) :: (← Certificate.listOfBase64 rest) :=
      List.mapM_cons
    cases htext : Certificate.ofBase64 text with
    | error cause =>
      refine Or.inl ⟨cause, ?_, text, List.mem_cons_self, htext⟩
      rw [hcons, htext]
      rfl
    | ok c =>
      rw [hcons, htext]
      rcases ih with ⟨cause, hrest, bad, hbad, he⟩ | ⟨certificates, hrest, hgood, hall⟩
      · refine Or.inl ⟨cause, ?_, bad, List.mem_cons_of_mem text hbad, he⟩
        rw [hrest]
        rfl
      · refine Or.inr ⟨c :: certificates, ?_, ?_, ?_⟩
        · rw [hrest]
          rfl
        · refine List.forall_mem_cons.mpr ⟨?_, hgood⟩
          rw [htext]
          exact nofun
        · rw [List.all_cons, List.all_cons, hall, acceptsText, htext]

/-- Check one key. -/
def checkKey (f : ChainFilter) (entity : String) (k : KeyDescriptor) : Step Bool :=
  match k.decode with
  | .error e => .stop (.undecodable e)
  | .ok certificates => f.checkCertificates entity certificates

/-- Checking a key stops if it cannot be decoded or the validator breaks down on it. -/
theorem settles_checkKey (entity : String) (k : KeyDescriptor) :
    (f.checkKey entity k).Settles (f.FailsAt k) (f.passes k) := by
  unfold checkKey FailsAt passes KeyDescriptor.decode
  rcases listOfBase64_cases (f := f) k.certificates with
    ⟨cause, hdecode, hbad⟩ | ⟨certificates, hdecode, hgood, hall⟩
  · obtain ⟨text, htext, he⟩ := hbad
    rw [hdecode]
    exact ⟨fun _ => ⟨_, rfl⟩, fun hnot => absurd (Or.inl ⟨text, htext, cause, he⟩) hnot⟩
  · rw [hdecode, hall]
    refine (settles_checkCertificates entity certificates).congr ?_ rfl
    constructor
    · intro hbreaks
      exact Or.inr ⟨certificates, rfl, hbreaks⟩
    · rintro (⟨text, htext, cause, he⟩ | ⟨_, heq, hbreaks⟩)
      · exact absurd he (hgood text htext cause)
      · rw [Except.ok.inj heq]
        exact hbreaks

/-- Checking keys is checking one after another. -/
theorem checkKeys_cons (entity : String) (k : KeyDescriptor) (rest : List KeyDescriptor) :
    f.checkKeys entity (k :: rest) = do
      if ← f.checkKey entity k then f.checkKeys entity rest else return false := by
  rw [checkKeys, checkKey]
  cases k.decode with
  | error e => rfl
  | ok certificates => rfl

/-- Checking a descriptor stops if checking its keys does. -/
theorem settles_keepsRole (entity : String) (r : RoleDescriptor) :
    (f.keepsRole entity r).Settles (f.FailsIn r) (f.survivesRole r) := by
  unfold keepsRole FailsIn survivesRole
  by_cases hrole : r.role = f.role
  · rw [if_pos hrole]
    have hkeys : (f.checkKeys entity r.keys).Settles (Reaches f.passes f.FailsAt r.keys)
        (r.keys.all f.passes) :=
      settles_checks (f.checkKey entity) (f.checkKeys entity) rfl (checkKeys_cons entity)
        (settles_checkKey entity) r.keys
    refine hkeys.congr ?_ ?_
    · simp [hrole]
    · simp [hrole]
  · rw [if_neg hrole]
    refine (Step.settles_pure true).congr ?_ ?_
    · simp [hrole]
    · simp [hrole]

/-- Pruning descriptors stops where checking fails in one, and leaves those that survive. -/
theorem settles_pruneRoles (entity : String) (roles : List RoleDescriptor) :
    (f.pruneRoles entity roles).Settles (∃ r ∈ roles, f.FailsIn r)
      (roles.filter f.survivesRole) := by
  induction roles with
  | nil => exact (Step.settles_pure []).congr (by simp) rfl
  | cons r rest ih =>
    rw [pruneRoles, List.filter_cons]
    have hkeeps := settles_keepsRole (f := f) entity r
    cases hr : f.survivesRole r with
    | true =>
      rw [hr] at hkeeps
      exact (hkeeps.andThen _ (ih.map (r :: ·))).congr (by simp) rfl
    | false =>
      rw [hr] at hkeeps
      exact (hkeeps.andThen _ (ih.report (.removedRole entity r.role))).congr (by simp) rfl

/-- Nothing is left by a filter that nothing passes. -/
theorem isEmpty_filter (test : α → Bool) (xs : List α) :
    (xs.filter test).isEmpty = !xs.any test := by
  rw [Bool.eq_iff_iff]
  simp

/-- Pruning an entity stops where checking fails in it, and leaves it trimmed if it survives. -/
theorem settles_pruneEntity (e : Entity) :
    (f.pruneEntity e).Settles (f.FailsWithin e)
      (if f.survivesEntity e then some (f.trimEntity e) else none) := by
  have hroles := settles_pruneRoles (f := f) e.id e.roles
  have hempty : (e.roles.filter f.survivesRole).isEmpty = !f.survivesEntity e :=
    isEmpty_filter f.survivesRole e.roles
  unfold pruneEntity
  refine Step.Settles.report ?_ (.entity e.id)
  cases he : f.survivesEntity e with
  | true =>
    refine (hroles.andThen _ ?_).congr (iff_of_eq (or_false _)) rfl
    rw [hempty, he]
    exact Step.settles_pure _
  | false =>
    refine (hroles.andThen _ ?_).congr (iff_of_eq (or_false _)) rfl
    rw [hempty, he]
    exact (Step.settles_pure none).report (.noRoles e.id)

/-- Pruning entities stops where checking fails in one, and leaves those that survive. -/
theorem settles_pruneEntities (entities : List Entity) :
    (f.pruneEntities entities).Settles (∃ e ∈ entities, f.FailsWithin e)
      ((entities.filter f.survivesEntity).map f.trimEntity) := by
  induction entities with
  | nil => exact (Step.settles_pure []).congr (by simp) rfl
  | cons e rest ih =>
    rw [pruneEntities, List.filter_cons]
    have hentity := settles_pruneEntity (f := f) e
    cases he : f.survivesEntity e with
    | true =>
      rw [he] at hentity
      exact (hentity.andThen _ (ih.map (f.trimEntity e :: ·))).congr (by simp) rfl
    | false =>
      rw [he] at hentity
      exact (hentity.andThen _ (ih.report (.removedEntity e.id))).congr (by simp) rfl

mutual

/-- Pruning a group stops where checking fails in it, and leaves it trimmed if it survives. -/
theorem settles_pruneGroup : (g : Group) →
    (f.pruneGroup g).Settles (∃ e ∈ g.allEntities, f.FailsWithin e)
      (if f.survivesGroup g then some (f.trimGroup g) else none)
  | .mk name id entities groups => by
    have hentities := settles_pruneEntities (f := f) entities
    have hgroups := settles_pruneGroups groups
    have hleft : (((entities.filter f.survivesEntity).map f.trimEntity).isEmpty &&
        (f.trimGroups groups).isEmpty) = !f.survivesGroup (.mk name id entities groups) := by
      rw [survivesGroup, survivesAny_eq, trimGroups_eq, List.isEmpty_map, List.isEmpty_map,
        isEmpty_filter, isEmpty_filter, Bool.not_or]
    have hwithin : ((∃ e ∈ entities, f.FailsWithin e) ∨
        (∃ e ∈ Group.allEntitiesOf groups, f.FailsWithin e) ∨ False) ↔
        ∃ e ∈ Group.allEntities (.mk name id entities groups), f.FailsWithin e := by
      simp only [Group.allEntities, List.mem_append, or_and_right, exists_or, or_false]
    rw [pruneGroup]
    refine Step.Settles.report ?_ _
    refine (hentities.andThen _ (hgroups.andThen _ ?_)).congr hwithin rfl
    rw [hleft]
    cases hg : f.survivesGroup (.mk name id entities groups) with
    | true =>
      rw [trimGroup]
      exact Step.settles_pure _
    | false => exact (Step.settles_pure none).report _

/-- Pruning groups stops where checking fails in one, and leaves those that survive. -/
theorem settles_pruneGroups : (groups : List Group) →
    (f.pruneGroups groups).Settles (∃ e ∈ Group.allEntitiesOf groups, f.FailsWithin e)
      (f.trimGroups groups)
  | [] => by
    rw [pruneGroups, trimGroups]
    exact (Step.settles_pure []).congr (by simp [Group.allEntitiesOf]) rfl
  | g :: rest => by
    have hgroup := settles_pruneGroup g
    have hrest := settles_pruneGroups rest
    have hwithin : ((∃ e ∈ g.allEntities, f.FailsWithin e) ∨
        ∃ e ∈ Group.allEntitiesOf rest, f.FailsWithin e) ↔
        ∃ e ∈ Group.allEntitiesOf (g :: rest), f.FailsWithin e := by
      simp only [Group.allEntitiesOf, List.mem_append, or_and_right, exists_or]
    rw [pruneGroups, trimGroups]
    refine Step.Settles.report ?_ _
    cases hg : f.survivesGroup g with
    | true =>
      rw [hg] at hgroup
      exact (hgroup.andThen _ (hrest.map (f.trimGroup g :: ·))).congr hwithin rfl
    | false =>
      rw [hg] at hgroup
      exact (hgroup.andThen _ (hrest.report (.removedGroup g.displayName))).congr hwithin rfl

end

/-- Pruning a document stops if it is to be discarded, and leaves it trimmed if it survives. -/
theorem settles_prune (m : Metadata) :
    (f.prune m).Settles (f.Discards m) (if f.survives m then some (f.trim m) else none) := by
  cases m with
  | entity e =>
    refine ((settles_pruneEntity (f := f) e).map (Option.map Metadata.entity)).congr ?_ ?_
    · simp [Discards, Metadata.entities]
    · rw [survives, trim, apply_ite (Option.map Metadata.entity)]
      rfl
  | group g =>
    refine ((settles_pruneGroup (f := f) g).map (Option.map Metadata.group)).congr Iff.rfl ?_
    rw [survives, trim, apply_ite (Option.map Metadata.group)]
    rfl

end Steps

/-! ## The filter -/

/-- A filter discards a document if checking reaches, in some descriptor of its role, a key that
cannot be decoded or on which the validator breaks down. Otherwise nothing is left if the root
does not survive, and else the document with exactly what survives. -/
theorem metadata_run (f : ChainFilter) (m : Metadata) :
    (f.Discards m → (f.run m).metadata = none) ∧
      (¬ f.Discards m →
        (f.run m).metadata = if f.survives m then some (f.trim m) else none) := by
  have hsettles := settles_prune (f := f) m
  constructor
  · intro hdiscards
    obtain ⟨i, hi⟩ := hsettles.1 hdiscards
    unfold run
    dsimp only
    rw [hi]
    cases i with
    | undecodable cause => rfl
    | crash => rfl
  · intro hkeeps
    unfold run
    dsimp only
    rw [hsettles.2 hkeeps]
    cases f.survives m with
    | true => rfl
    | false => rfl

end AnchoredMetadata.ChainFilter
