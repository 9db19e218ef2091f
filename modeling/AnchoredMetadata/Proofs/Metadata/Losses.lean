import AnchoredMetadata.Proofs.Certificate.Chain
import AnchoredMetadata.Proofs.Metadata.Survivors
import AnchoredMetadata.Proofs.Repository.Making

/-!
# Losses and the log

A filter that leaves something of a document has warned of every part it took away: of descriptors,
with the certificate that was rejected, of entities and of groups, each after what it holds. It has
warned of nothing else, so the warnings of each kind are as many as the parts of that kind that are
missing in what is left.
-/

namespace AnchoredMetadata.ChainFilter

open Log

variable {α β : Type}

/-! ## Warnings and errors of steps -/

/-- The warnings and errors among some events. -/
def log (events : List Event) : List Record := (events.map Event.record).filter Record.isGrave

theorem log_append (a b : List Event) : log (a ++ b) = log a ++ log b := by
  rw [log, List.map_append, List.filter_append, ← log, ← log]

namespace Step

variable {s : Step α} {a : α}

/-- A step that stops at one of some parts comes to its value if it stops at none. -/
theorem Settles.result_of_forall {xs : List β} {p : β → Prop} (h : s.Settles (∃ x ∈ xs, p x) a)
    (hxs : ∀ x ∈ xs, ¬ p x) : s.result = .ok a :=
  h.2 fun ⟨x, hx, hp⟩ => hxs x hx hp

theorem result_bind (h : s.result = .ok a) (next : α → Step β) :
    (s >>= next).result = (next a).result := by
  change (s.andThen next).result = (next a).result
  rw [andThen, h]

theorem log_bind (h : s.result = .ok a) (next : α → Step β) :
    log (s >>= next).events = log s.events ++ log (next a).events := by
  change log (s.andThen next).events = log s.events ++ log (next a).events
  rw [andThen, h]
  exact log_append s.events (next a).events

/-- What becomes of the value of a step is not reported. -/
theorem log_map (h : s.result = .ok a) (g : α → β) :
    log (s >>= fun x => pure (g x)).events = log s.events := by
  rw [log_bind h]
  exact List.append_nil _

theorem log_report (e : Event) (t : Step α) :
    log (report e >>= fun _ => t).events = log [e] ++ log t.events :=
  log_bind rfl fun _ => t

/-- A report that is neither a warning nor an error is not seen. -/
theorem log_report_of_not_grave {e : Event} (h : e.record.isGrave = false) (t : Step α) :
    log (report e >>= fun _ => t).events = log t.events := by
  rw [log_report, log, List.map_cons, List.map_nil, List.filter_cons_of_neg (by rw [h]; decide)]
  rfl

end Step

/-! ## Rejected certificates -/

/-- A certificate that was rejected, and why. -/
structure Rejection where
  /-- The certificate. -/
  certificate : Certificate
  /-- The reason the validator gave. -/
  reason : String

/-- The error for a rejected certificate of an entity. -/
def Rejection.record (entity : String) (r : Rejection) : Record :=
  ⟨.error, "Certificate chain validation failed for metadata entry",
    [("entity_id", entity), ("subject", r.certificate.subject), ("reason", r.reason)]⟩

section Rejections

variable (f : ChainFilter)

/-- The rejection of a certificate, if it is rejected. -/
def rejectionOf? (c : Certificate) : Option Rejection :=
  match f.validator c f.store with
  | .rejected reason => some ⟨c, reason⟩
  | _ => none

/-- The first rejection among the certificates of a key. -/
def keyRejection? (k : KeyDescriptor) : Option Rejection :=
  k.certificates.findSome? fun text => (Certificate.ofBase64 text).toOption.bind f.rejectionOf?

/-- The first rejection among the certificates of a descriptor of the filter's role, key by key. -/
def rejection? (r : RoleDescriptor) : Option Rejection :=
  if r.role = f.role then r.keys.findSome? f.keyRejection? else none

end Rejections

/-- Unless a check stops, it passes if there is no rejection to find, and else reports the one it
finds. -/
def Step.Finds (s : Step Bool) (entity : String) (p : Prop) (found : Option Rejection) : Prop :=
  ¬ p → s.result = .ok found.isNone ∧ log s.events = found.toList.map (Rejection.record entity)

/-- Checks up to the first that fails find the first rejection. -/
theorem finds_checks (check : α → Step Bool) (checks : List α → Step Bool) {entity : String}
    {test : α → Bool} {p : α → Prop} {found? : α → Option Rejection}
    (hnil : checks [] = pure true)
    (hcons : ∀ x xs, checks (x :: xs) = do
      if ← check x then checks xs else return false)
    (h : ∀ x, (check x).Settles (p x) (test x))
    (hfinds : ∀ x, (check x).Finds entity (p x) (found? x)) (xs : List α) :
    (checks xs).Finds entity (Reaches test p xs) (xs.findSome? found?) := by
  induction xs with
  | nil =>
    intro _
    rw [hnil]
    exact ⟨rfl, rfl⟩
  | cons x xs ih =>
    intro hnot
    rw [reaches_cons, not_or, not_and] at hnot
    obtain ⟨hresult, hlog⟩ := hfinds x hnot.1
    have htest : test x = (found? x).isNone :=
      Except.ok.inj (((h x).2 hnot.1).symm.trans hresult)
    rw [hcons, Step.result_bind hresult, Step.log_bind hresult, hlog, List.findSome?_cons]
    cases hfound : found? x with
    | none =>
      obtain ⟨hrest, hlater⟩ := ih (hnot.2 (by rw [htest, hfound]; rfl))
      exact ⟨hrest, hlater⟩
    | some rejection => exact ⟨rfl, rfl⟩

section Checks

variable {f : ChainFilter} (entity : String)

theorem finds_checkCertificate (c : Certificate) :
    (f.checkCertificate entity c).Finds entity (f.validator c f.store = .crashed)
      (f.rejectionOf? c) := by
  unfold checkCertificate rejectionOf?
  intro hnot
  cases h : f.validator c f.store with
  | accepted => exact ⟨rfl, rfl⟩
  | rejected reason => exact ⟨rfl, rfl⟩
  | crashed => exact absurd h hnot

/-- The first rejection of a key that can be decoded is found among what is decoded. -/
theorem keyRejection?_of_decode {k : KeyDescriptor} {certificates : List Certificate}
    (h : k.decode = .ok certificates) :
    f.keyRejection? k = certificates.findSome? f.rejectionOf? := by
  have hread := Certificate.map_ofBase64_of_list h
  have hmap : f.keyRejection? k = (k.certificates.map Certificate.ofBase64).findSome?
      fun read => read.toOption.bind f.rejectionOf? := by
    rw [List.findSome?_map]
    rfl
  rw [hmap, hread, List.findSome?_map]
  rfl

theorem finds_checkKey (k : KeyDescriptor) :
    (f.checkKey entity k).Finds entity (f.FailsAt k) (f.keyRejection? k) := by
  intro hnot
  have hresult := (settles_checkKey entity k).2 hnot
  unfold checkKey at hresult ⊢
  split
  · next e hdecode =>
    rw [hdecode] at hresult
    cases hresult
  · next certificates hdecode =>
    rw [keyRejection?_of_decode hdecode]
    have hcons (c : Certificate) (rest : List Certificate) :
        f.checkCertificates entity (c :: rest) = do
          if ← f.checkCertificate entity c then f.checkCertificates entity rest
          else return false := rfl
    refine finds_checks (f.checkCertificate entity) (f.checkCertificates entity) rfl hcons
      (settles_checkCertificate entity) (finds_checkCertificate entity) certificates ?_
    exact fun hbreaks => hnot (Or.inr ⟨certificates, hdecode, hbreaks⟩)

/-- Checking a descriptor finds its first rejection. -/
theorem finds_keepsRole (r : RoleDescriptor) :
    (f.keepsRole entity r).Finds entity (f.FailsIn r) (f.rejection? r) := by
  intro hnot
  unfold keepsRole rejection?
  by_cases hrole : r.role = f.role
  · rw [if_pos hrole, if_pos hrole]
    refine finds_checks (f.checkKey entity) (f.checkKeys entity) rfl (checkKeys_cons entity)
      (settles_checkKey entity) (finds_checkKey entity) r.keys ?_
    exact fun hreaches => hnot ⟨hrole, hreaches⟩
  · rw [if_neg hrole, if_neg hrole]
    exact ⟨rfl, rfl⟩

/-- A descriptor survives exactly when there is no rejection in it. -/
theorem survivesRole_eq_isNone {r : RoleDescriptor} (h : ¬ f.FailsIn r) :
    f.survivesRole r = (f.rejection? r).isNone :=
  -- the entity is named in reports only
  Except.ok.inj (((settles_keepsRole "" r).2 h).symm.trans (finds_keepsRole "" r h).1)

end Checks

/-! ## Losses -/

/-- What a filter takes away. -/
inductive Loss where
  /-- A descriptor of an entity, for a rejection in it. -/
  | role (entity : String) (role : Role) (rejection : Rejection)
  /-- An entity of a group. -/
  | entity (id : String)
  /-- A nested group. -/
  | group (name : String)

/-- The kinds of losses. -/
inductive Loss.Kind where
  /-- Descriptors. -/
  | role
  /-- Entities. -/
  | entity
  /-- Groups. -/
  | group
  deriving DecidableEq, Repr

namespace Loss

/-- The kind of a loss. -/
def kind : Loss → Kind
  | .role _ _ _ => .role
  | .entity _ => .entity
  | .group _ => .group

/-- What the log says when something of a kind is lost. -/
def Kind.message : Kind → String
  | .role => "RoleDescriptor failed certificate chain validation, removing from metadata provider"
  | .entity =>
    "EntityDescriptor failed certificate chain validation, removing from metadata provider"
  | .group =>
    "EntitiesDescriptor failed certificate chain validation, removing from metadata provider"

/-- What the log says of a loss: of a descriptor also the rejection, as errors, and of all else a
warning. -/
def records : Loss → List Record
  | .role id played rejection =>
    [rejection.record id,
      ⟨.error, Kind.message .role, [("entity_id", id), ("role", played.elementName)]⟩]
  | .entity id => [⟨.warn, Kind.message .entity, [("entity_id", id)]⟩]
  | .group name => [⟨.warn, Kind.message .group, [("group", name)]⟩]

end Loss

section Losses

variable (f : ChainFilter)

/-- The loss of a descriptor, if it is removed. -/
def roleLoss? (entity : String) (r : RoleDescriptor) : Option Loss :=
  (f.rejection? r).map (Loss.role entity r.role)

/-- The losses of an entity in a group: its descriptors, then itself if nothing is left of it. -/
def entityLosses (e : Entity) : List Loss :=
  e.roles.filterMap (f.roleLoss? e.id) ++ if f.survivesEntity e then [] else [.entity e.id]

/-- The loss of a nested group, if nothing is left of it. -/
def ownLoss (g : Group) : List Loss := if f.survivesGroup g then [] else [.group g.displayName]

mutual

/-- The losses within a group: those of its entities, then those of the groups nested in it. -/
def losses : Group → List Loss
  | .mk _ _ entities groups => entities.flatMap f.entityLosses ++ lossesAll groups

/-- The losses of nested groups: of each what is within, then itself. -/
def lossesAll : List Group → List Loss
  | [] => []
  | g :: rest => losses g ++ f.ownLoss g ++ lossesAll rest

end

end Losses

/-! ## The log of a run -/

section Logs

variable {f : ChainFilter}

theorem log_pruneRoles (entity : String) {roles : List RoleDescriptor}
    (h : ∀ r ∈ roles, ¬ f.FailsIn r) :
    log (f.pruneRoles entity roles).events =
      (roles.filterMap (f.roleLoss? entity)).flatMap Loss.records := by
  induction roles with
  | nil => rfl
  | cons r rest ih =>
    obtain ⟨hr, hrest⟩ := List.forall_mem_cons.mp h
    obtain ⟨hresult, hlog⟩ := finds_keepsRole entity r hr
    have hkept := (settles_pruneRoles entity rest).result_of_forall hrest
    rw [pruneRoles, Step.log_bind hresult, hlog, List.filterMap_cons, roleLoss?]
    cases f.rejection? r with
    | none => exact (Step.log_map hkept (r :: ·)).trans (ih hrest)
    | some rejection =>
      have hreport := Step.log_report (.removedRole entity r.role) (f.pruneRoles entity rest)
      rw [ih hrest] at hreport
      exact congrArg (rejection.record entity :: ·) hreport

theorem log_pruneEntity {e : Entity} (h : ¬ f.FailsWithin e) :
    log (f.pruneEntity e).events =
      (e.roles.filterMap (f.roleLoss? e.id)).flatMap Loss.records := by
  have hroles : ∀ r ∈ e.roles, ¬ f.FailsIn r := fun r hr hfails => h ⟨r, hr, hfails⟩
  rw [pruneEntity, Step.log_report_of_not_grave rfl,
    Step.log_bind ((settles_pruneRoles e.id e.roles).2 h), log_pruneRoles e.id hroles]
  -- that no descriptor is left is a mere trace
  split <;> exact List.append_nil _

theorem log_pruneEntities {entities : List Entity} (h : ∀ e ∈ entities, ¬ f.FailsWithin e) :
    log (f.pruneEntities entities).events =
      (entities.flatMap f.entityLosses).flatMap Loss.records := by
  induction entities with
  | nil => rfl
  | cons e rest ih =>
    obtain ⟨he, hrest⟩ := List.forall_mem_cons.mp h
    have hkept := (settles_pruneEntities rest).result_of_forall hrest
    rw [pruneEntities, Step.log_bind ((settles_pruneEntity e).2 he), log_pruneEntity he,
      List.flatMap_cons, List.flatMap_append, entityLosses, List.flatMap_append, ← ih hrest,
      List.append_assoc]
    cases f.survivesEntity e with
    | true => exact congrArg _ (Step.log_map hkept (f.trimEntity e :: ·))
    | false => exact congrArg _ (Step.log_report (.removedEntity e.id) (f.pruneEntities rest))

mutual

theorem log_pruneGroup : (g : Group) → (∀ e ∈ g.allEntities, ¬ f.FailsWithin e) →
    log (f.pruneGroup g).events = (f.losses g).flatMap Loss.records
  | .mk name id entities groups, h => by
    rw [Group.allEntities, List.forall_mem_append] at h
    have hentities := (settles_pruneEntities entities).result_of_forall h.1
    have hgroups := (settles_pruneGroups groups).result_of_forall h.2
    rw [pruneGroup, Step.log_report_of_not_grave rfl, Step.log_bind hentities,
      Step.log_bind hgroups, log_pruneEntities h.1, log_pruneGroups groups h.2, losses,
      List.flatMap_append, ← List.append_assoc]
    -- that nothing is left in the group is a mere trace
    split <;> exact List.append_nil _

theorem log_pruneGroups : (groups : List Group) →
    (∀ e ∈ Group.allEntitiesOf groups, ¬ f.FailsWithin e) →
    log (f.pruneGroups groups).events = (f.lossesAll groups).flatMap Loss.records
  | [], _ => by
    rw [pruneGroups, lossesAll]
    rfl
  | g :: rest, h => by
    rw [Group.allEntitiesOf, List.forall_mem_append] at h
    have hgroup := (settles_pruneGroup g).result_of_forall h.1
    have hrest := (settles_pruneGroups rest).result_of_forall h.2
    rw [pruneGroups, Step.log_report_of_not_grave rfl, Step.log_bind hgroup,
      log_pruneGroup g h.1, lossesAll, List.flatMap_append, List.flatMap_append,
      ← log_pruneGroups rest h.2, ownLoss, List.append_assoc]
    cases f.survivesGroup g with
    | true => exact congrArg _ (Step.log_map hrest (f.trimGroup g :: ·))
    | false => exact congrArg _ (Step.log_report (.removedGroup g.displayName) (f.pruneGroups rest))

end

/-- If a run leaves something, what it reports is what was pruned. -/
theorem log_run {g : Group} {kept : Metadata} (h : (f.run (.group g)).metadata = some kept) :
    log (f.run (.group g)).events = (f.losses g).flatMap Loss.records := by
  obtain ⟨hgood, hmeets, -⟩ := metadata_run_eq_some_iff.mp h
  have hdiscards : ¬ f.Discards (.group g) := by
    rw [discards_iff]
    exact fun ⟨r, hr, hfails⟩ => hgood r hr hfails
  rw [← survives_eq_meets] at hmeets
  have hresult := (settles_prune (.group g)).2 hdiscards
  have hevents : (f.run (.group g)).events = (f.prune (.group g)).events := by
    unfold run
    dsimp only
    rw [hresult, hmeets]
    rfl
  rw [hevents, ← log_pruneGroup g fun e he hfails => hdiscards ⟨e, he, hfails⟩]
  exact Step.log_map ((settles_pruneGroup g).2 hdiscards) (Option.map Metadata.group)

end Logs

/-! ## Losses counted -/

namespace Loss

/-- The parts of a kind that a group consists of, itself included. -/
def Kind.count : Kind → Group → Nat
  | .role, g => g.roles.length
  | .entity, g => g.allEntities.length
  | .group, g => g.allGroups.length

/-- The reports that something of a kind was lost. -/
def Kind.reported (k : Kind) (records : List Record) : Nat :=
  records.countP fun r => r.message = k.message

/-- A loss is reported once, as what it is. -/
theorem reported_records (k : Kind) (loss : Loss) :
    k.reported loss.records = if loss.kind = k then 1 else 0 := by
  cases loss <;> cases k <;> rfl

theorem reported_flatMap_records (k : Kind) (losses : List Loss) :
    k.reported (losses.flatMap records) = losses.countP fun loss => loss.kind = k := by
  induction losses with
  | nil => rfl
  | cons loss rest ih =>
    rw [List.flatMap_cons, Kind.reported, List.countP_append, ← Kind.reported, ← Kind.reported, ih,
      reported_records, List.countP_cons, Nat.add_comm]
    simp only [decide_eq_true_eq]

end Loss

section Counts

variable {f : ChainFilter}

mutual

/-- The losses of a group are those of all its entities and those of all its groups. -/
theorem losses_perm : (g : Group) → (f.losses g ++ f.ownLoss g).Perm
    (g.allEntities.flatMap f.entityLosses ++ g.allGroups.flatMap f.ownLoss)
  | .mk name id entities groups => by
    rw [losses, Group.allEntities, Group.allGroups, List.flatMap_append, List.flatMap_cons,
      List.append_assoc, List.append_assoc]
    refine List.Perm.append_left _ (((lossesAll_perm groups).append_right _).trans ?_)
    rw [List.append_assoc]
    exact List.perm_append_comm.append_left _

theorem lossesAll_perm : (groups : List Group) → (f.lossesAll groups).Perm
    ((Group.allEntitiesOf groups).flatMap f.entityLosses ++
      (Group.allGroupsOf groups).flatMap f.ownLoss)
  | [] => List.Perm.refl []
  | g :: rest => by
    rw [lossesAll, Group.allEntitiesOf, Group.allGroupsOf, List.flatMap_append,
      List.flatMap_append]
    refine ((losses_perm g).append (lossesAll_perm rest)).trans ?_
    rw [List.append_assoc, List.append_assoc]
    exact (List.perm_append_comm_assoc _ _ _).append_left _

end

/-- What holds of one part of some lists, and of none of the others, holds as often as there are
such lists. -/
theorem countP_flatMap_eq {parts : α → List β} {p : β → Bool} {q : α → Bool} {xs : List α}
    (h : ∀ x ∈ xs, (parts x).countP p = if q x then 1 else 0) :
    (xs.flatMap parts).countP p = xs.countP q := by
  induction xs with
  | nil => rfl
  | cons x rest ih =>
    obtain ⟨hx, hrest⟩ := List.forall_mem_cons.mp h
    rw [List.flatMap_cons, List.countP_append, ih hrest, hx, List.countP_cons, Nat.add_comm]

/-- The losses of an entity are its descriptors that do not survive. -/
theorem countP_role_entityLosses {e : Entity} (h : ¬ f.FailsWithin e) :
    (f.entityLosses e).countP (fun loss => loss.kind = .role) =
      e.roles.countP fun r => !f.survivesRole r := by
  have hself : (if f.survivesEntity e then [] else [Loss.entity e.id]).countP
      (fun loss => loss.kind = .role) = 0 := by
    split <;> rfl
  rw [entityLosses, List.countP_append, hself, Nat.add_zero, List.countP_filterMap]
  refine List.countP_congr fun r hr => ?_
  rw [survivesRole_eq_isNone fun hfails => h ⟨r, hr, hfails⟩, roleLoss?]
  cases f.rejection? r <;> simp [Loss.kind]

/-- Of the losses of an entity one is of the entity, if it does not survive, and none of a group. -/
theorem countP_entityLosses (e : Entity) (k : Loss.Kind) (hk : k ≠ .role) :
    (f.entityLosses e).countP (fun loss => loss.kind = k) =
      if k = .entity && !f.survivesEntity e then 1 else 0 := by
  have hroles : (e.roles.filterMap (f.roleLoss? e.id)).countP (fun loss => loss.kind = k) = 0 := by
    rw [List.countP_eq_zero]
    intro loss hloss
    obtain ⟨r, -, hr⟩ := List.mem_filterMap.mp hloss
    obtain ⟨rejection, -, rfl⟩ := Option.map_eq_some_iff.mp hr
    exact fun hkind => hk (of_decide_eq_true hkind).symm
  rw [entityLosses, List.countP_append, hroles, Nat.zero_add]
  cases f.survivesEntity e <;> cases k <;> rfl

theorem countP_ownLoss (g : Group) (k : Loss.Kind) :
    (f.ownLoss g).countP (fun loss => loss.kind = k) =
      if k = .group && !f.survivesGroup g then 1 else 0 := by
  rw [ownLoss]
  cases f.survivesGroup g <;> cases k <;> rfl

/-- The elements that fail a test and those that pass it are all there are. -/
theorem countP_not_add_length_filter (test : α → Bool) (xs : List α) :
    (xs.countP fun x => !test x) + (xs.filter test).length = xs.length := by
  rw [← List.countP_eq_length_filter, Nat.add_comm, List.length_eq_countP_add_countP test]
  simp only [Bool.not_eq_true, Bool.decide_eq_false]

/-- What is lost of a group that survives and what is left of it is all of it. -/
theorem countP_losses_add_count {g : Group} (h : ∀ e ∈ g.allEntities, ¬ f.FailsWithin e)
    (hg : f.survivesGroup g = true) (k : Loss.Kind) :
    (f.losses g).countP (fun loss => loss.kind = k) + k.count (f.trimGroup g) = k.count g := by
  have hentity : Entity.meets f.survivesRole = f.survivesEntity := rfl
  have hgroup : Group.meets f.survivesRole = f.survivesGroup :=
    funext fun n => (survivesGroup_eq_meets f n).symm
  have hown : f.ownLoss g = [] := if_pos hg
  -- counting is blind to order, so the losses may be taken entity by entity and group by group
  have hcount := (losses_perm (f := f) g).countP_eq fun loss => loss.kind = k
  rw [hown, List.append_nil, List.countP_append,
    countP_flatMap_eq fun n _ => countP_ownLoss n k] at hcount
  rw [hcount, trimGroup_eq_restrict]
  cases k with
  | role =>
    have hlost : (g.allEntities.flatMap f.entityLosses).countP (fun loss => loss.kind = .role) =
        g.roles.countP fun r => !f.survivesRole r := by
      rw [Group.roles, List.countP_flatMap, List.countP_flatMap]
      exact congrArg List.sum (List.map_congr_left fun e he => countP_role_entityLosses (h e he))
    rw [hlost, Loss.Kind.count, Loss.Kind.count, Group.roles_restrict]
    simpa using countP_not_add_length_filter f.survivesRole g.roles
  | entity =>
    rw [countP_flatMap_eq fun e _ => countP_entityLosses e .entity nofun, Loss.Kind.count,
      Loss.Kind.count, Group.allEntities_restrict, List.length_map, hentity]
    simpa using countP_not_add_length_filter f.survivesEntity g.allEntities
  | group =>
    rw [countP_flatMap_eq fun e _ => countP_entityLosses e .group nofun, Loss.Kind.count,
      Loss.Kind.count, Group.allGroups_restrict _ g (hgroup ▸ hg), List.length_map, hgroup]
    simpa using countP_not_add_length_filter f.survivesGroup g.allGroups

end Counts

/-! ## What the log accounts for -/

/-- The warnings and errors of a run that leaves something of a group are those of its losses, in
the order of the document. A descriptor is lost exactly if one of its certificates is rejected, and
what is left is what survives. So for each kind the reports that something of it was lost, and what
is left of it, are as many as there were. -/
theorem log_accounts_for_losses {f : ChainFilter} {g : Group} {kept : Metadata}
    (h : (f.run (.group g)).metadata = some kept) :
    log (f.run (.group g)).events = (f.losses g).flatMap Loss.records ∧
      (∀ r ∈ g.roles, f.survivesRole r = (f.rejection? r).isNone) ∧
      kept = .group (f.trimGroup g) ∧
      ∀ k : Loss.Kind, k.reported (log (f.run (.group g)).events) + k.count (f.trimGroup g) =
        k.count g := by
  obtain ⟨hgood, hmeets, hkept⟩ := metadata_run_eq_some_iff.mp h
  rw [← survives_eq_meets] at hmeets
  rw [← trim_eq_restrict] at hkept
  have hwithin : ∀ e ∈ g.allEntities, ¬ f.FailsWithin e := by
    rintro e he ⟨r, hr, hfails⟩
    exact hgood r (List.mem_flatMap.mpr ⟨e, he, hr⟩) hfails
  refine ⟨log_run h, fun r hr => survivesRole_eq_isNone (hgood r hr), hkept.symm, fun k => ?_⟩
  rw [log_run h, Loss.reported_flatMap_records]
  exact countP_losses_add_count hwithin hmeets k

/-- A filter for identity providers that rejects the certificates with the serial number 2. -/
def sampleFilter : ChainFilter :=
  ⟨.identityProvider, fun c _ => if c.serial = "02" then .rejected "revoked" else .accepted,
    .empty "federation"⟩

/-- A group with an entity that keeps one of two descriptors, and a nested group of an entity that
loses its only one. -/
def sampleFederation : Group :=
  .mk (some "federation") none
    [⟨"hub", [⟨.identityProvider, [⟨.signing, Repository.renewedAnchor.chain⟩]⟩,
      ⟨.identityProvider, [⟨.signing, Repository.sampleAnchor.chain⟩]⟩]⟩]
    [.mk none (some "outer") [⟨"shore",
      [⟨.identityProvider, [⟨.signing, Repository.renewedAnchor.chain⟩]⟩]⟩] []]

theorem log_accounts_for_nested_loss :
    ∃ kept, (sampleFilter.run (.group sampleFederation)).metadata = some kept ∧
      kept = .group (sampleFilter.trimGroup sampleFederation) ∧
      log (sampleFilter.run (.group sampleFederation)).events =
        (sampleFilter.losses sampleFederation).flatMap Loss.records ∧
      (sampleFilter.losses sampleFederation).map Loss.kind = [.role, .role, .entity, .group] := by
  have hsome : (sampleFilter.run (.group sampleFederation)).metadata.isSome = true := by
    decide +kernel
  obtain ⟨kept, hkept⟩ := Option.isSome_iff_exists.mp hsome
  obtain ⟨hlog, -, htrim, -⟩ := log_accounts_for_losses hkept
  exact ⟨kept, hkept, htrim, hlog, by decide +kernel⟩

end AnchoredMetadata.ChainFilter
