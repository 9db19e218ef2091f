import AnchoredMetadata.Proofs.Metadata.Unreadable
import Mathlib.Data.List.Basic

/-!
# Filtered documents as lists of entities

To filter a document and then list its entities is to list them first and prune
them one by one: what becomes of an entity depends neither on the groups around it
nor on other entities. So a filter for one role leaves the identifiers of every
other role as they were, and looking an entity up finds the first that survives.
-/

namespace AnchoredMetadata

/-! ## Documents that may be missing -/

namespace Metadata

/-- The entities of a document; none without one. -/
def entitiesOf (m : Option Metadata) : List Entity := m.elim [] entities

/-- The identifiers of the entities that play a role in a document; none without one. -/
def idsOf (m : Option Metadata) (role : Role) : List String :=
  m.elim [] fun m => m.idsWithRole role

theorem idsOf_eq (m : Option Metadata) (role : Role) :
    idsOf m role = ((entitiesOf m).filter fun e => e.hasRole role).map Entity.id := by
  cases m <;> rfl

theorem find?_eq (m : Option Metadata) (id : String) :
    (m.bind fun m => m.find? id) = (entitiesOf m).find? fun e => e.id = id := by
  cases m <;> rfl

end Metadata

/-- Among restricted entities, those with a descriptor that passes another test are the ones with a
descriptor that passes both. -/
theorem Entity.ids_filter_restrict (test other : RoleDescriptor → Bool) (entities : List Entity) :
    (((entities.filter (meets test)).map (restrict test)).filter (meets other)).map Entity.id =
      (entities.filter (meets fun r => test r && other r)).map Entity.id := by
  have h := congrArg (List.map Entity.id) (map_restrict_restrict test other entities)
  rw [List.map_map, List.map_map] at h
  exact h

namespace ChainFilter

variable {f : ChainFilter} {m : Metadata}

/-! ## Single entities -/

/-- What a filter leaves of a single entity. -/
def kept? (f : ChainFilter) (e : Entity) : Option Entity :=
  match (f.pruneEntity e).result with
  | .ok kept => kept
  | .error _ => none

/-- Whether an entity plays the filter's role with a descriptor of which every certificate can be
decoded and is accepted. -/
def playsAccepted (f : ChainFilter) (e : Entity) : Bool :=
  e.roles.any fun r => r.role = f.role && r.keys.all f.passes

/-- Where checking does not fail, an entity is left with the descriptors that survive, if any. -/
theorem kept?_eq {e : Entity} (h : ¬ f.FailsWithin e) :
    f.kept? e = if e.meets f.survivesRole then some (e.restrict f.survivesRole) else none := by
  rw [kept?, (settles_pruneEntity e).2 h]
  rfl

/-- An entity keeps its identifier. -/
theorem id_of_kept? {e kept : Entity} (h : f.kept? e = some kept) : kept.id = e.id := by
  by_cases hfails : f.FailsWithin e
  · obtain ⟨i, hi⟩ := (settles_pruneEntity e).1 hfails
    rw [kept?, hi] at h
    cases h
  · rw [kept?_eq hfails] at h
    split at h
    · obtain rfl := Option.some.inj h
      rfl
    · cases h

/-! ## The entities that are left -/

/-- Of a document that is not discarded those entities are left that have a descriptor which
survives, with their descriptors that do. -/
theorem entitiesOf_run (h : ¬ f.Discards m) :
    Metadata.entitiesOf (f.run m).metadata =
      (m.entities.filter (Entity.meets f.survivesRole)).map (Entity.restrict f.survivesRole) := by
  have hkeeps : ∀ r ∈ m.roles, ¬ f.FailsIn r := by
    intro r hr hfails
    exact h ((discards_iff f).mpr ⟨r, hr, hfails⟩)
  by_cases hmeets : m.meets f.survivesRole = true
  · have hleft : (f.run m).metadata = some (m.restrict f.survivesRole) :=
      metadata_run_eq_some_iff.mpr ⟨hkeeps, hmeets, rfl⟩
    rw [hleft]
    exact Metadata.entities_restrict _ hmeets
  · have hleft : (f.run m).metadata = none := by
      rw [Option.eq_none_iff_forall_ne_some]
      intro kept hkept
      exact hmeets (metadata_run_eq_some_iff.mp hkept).2.1
    have hnone : m.entities.filter (Entity.meets f.survivesRole) = [] := by
      rw [List.filter_eq_nil_iff]
      intro e he hsurvives
      apply hmeets
      rw [Metadata.meets, Metadata.roles, List.any_flatMap]
      exact List.any_eq_true.mpr ⟨e, he, hsurvives⟩
    rw [hleft, hnone]
    rfl

/-- They are what is left of the entities one by one. -/
theorem entitiesOf_run_eq_filterMap (h : ¬ f.Discards m) :
    Metadata.entitiesOf (f.run m).metadata = m.entities.filterMap f.kept? := by
  have hkept : ∀ e ∈ m.entities, f.kept? e =
      if e.meets f.survivesRole then some (e.restrict f.survivesRole) else none := by
    intro e he
    exact kept?_eq fun hfails => h ⟨e, he, hfails⟩
  rw [entitiesOf_run h, List.filterMap_congr hkept, ← List.filterMap_eq_map,
    List.filterMap_filter]
  rfl

/-- An entity plays a role still if it has a descriptor of the role that survives. -/
theorem idsOf_run (h : ¬ f.Discards m) (role : Role) :
    Metadata.idsOf (f.run m).metadata role =
      (m.entities.filter (Entity.meets fun r => f.survivesRole r && r.role = role)).map
        Entity.id := by
  rw [Metadata.idsOf_eq, entitiesOf_run h]
  exact Entity.ids_filter_restrict f.survivesRole (fun r => r.role = role) m.entities

/-- Descriptors of another role survive. -/
theorem survivesRole_and_other {role : Role} (hrole : role ≠ f.role) :
    (fun r => f.survivesRole r && r.role = role) =
      fun r : RoleDescriptor => decide (r.role = role) := by
  funext r
  by_cases hr : r.role = role
  · have hsurvives : f.survivesRole r = true := by simp [survivesRole, hr, hrole]
    rw [hsurvives, Bool.true_and]
  · rw [decide_eq_false hr, Bool.and_false]

/-- Descriptors of the filter's role survive if all their keys pass. -/
theorem survivesRole_and_own :
    (fun r => f.survivesRole r && r.role = f.role) =
      fun r : RoleDescriptor => r.role = f.role && r.keys.all f.passes := by
  funext r
  by_cases hr : r.role = f.role
  · simp [survivesRole, hr]
  · simp [hr]

/-- The first entity with an identifier that is left is what is left of the first one with it of
which anything is. -/
theorem find?_filterMap_kept? (entities : List Entity) (id : String) :
    (entities.filterMap f.kept?).find? (fun e => e.id = id) =
      (entities.filter fun e => e.id = id).findSome? f.kept? := by
  have hsame (e : Entity) : (f.kept? e).filter (fun kept => kept.id = id) =
      if e.id = id then f.kept? e else none := by
    cases hkept : f.kept? e with
    | none => simp
    | some kept => simp [Option.filter, id_of_kept? hkept]
  rw [← List.head?_filter, List.filter_filterMap, ← List.head?_filterMap, List.filterMap_filter]
  simp only [hsame, decide_eq_true_eq]

/-- If a filter does not discard a document, the entities it leaves are what it leaves of each
entity by itself, in their order. The identifiers with another role are those from before, and the
identifiers with the filter's role are those of the entities that have a descriptor of the role with
nothing but accepted certificates. Looking up an identifier finds what is left of the first entity
with it that survives. -/
theorem run_flattened (f : ChainFilter) (m : Metadata) (h : ¬ f.Discards m) :
    let left := (f.run m).metadata
    Metadata.entitiesOf left = m.entities.filterMap f.kept? ∧
    (∀ role, role ≠ f.role → Metadata.idsOf left role = m.idsWithRole role) ∧
    Metadata.idsOf left f.role = (m.entities.filter f.playsAccepted).map Entity.id ∧
    ∀ id, (left.bind fun kept => kept.find? id) =
      (m.entities.filter fun e => e.id = id).findSome? f.kept? := by
  intro left
  refine ⟨entitiesOf_run_eq_filterMap h, ?_, ?_, ?_⟩
  · intro role hrole
    rw [idsOf_run h, survivesRole_and_other hrole]
    rfl
  · rw [idsOf_run h, survivesRole_and_own]
    rfl
  · intro id
    rw [Metadata.find?_eq, entitiesOf_run_eq_filterMap h]
    exact find?_filterMap_kept? m.entities id

/-- A document with a provider and, in a nested group, a service that has the same identifier. -/
def sampleNamesakes : Metadata :=
  .group (.mk (some "federation") none [⟨"shore", [⟨.identityProvider, [readableKey]⟩]⟩]
    [.mk none none [⟨"shore", [⟨.serviceProvider, []⟩]⟩] []])

/-- Where the provider is rejected, its identifier stands for the service. -/
theorem later_namesake_found :
    let left := (rejecting.run sampleNamesakes).metadata
    (left.bind fun kept => kept.find? "shore") = some ⟨"shore", [⟨.serviceProvider, []⟩]⟩ ∧
      Metadata.idsOf left .identityProvider = [] ∧
      Metadata.idsOf left .serviceProvider = ["shore"] := by
  have hchecked : (rejecting.prune sampleNamesakes).result.isOk = true := by decide +kernel
  have hkeeps : ¬ rejecting.Discards sampleNamesakes := by
    intro hdiscards
    obtain ⟨i, hi⟩ := (settles_prune sampleNamesakes).1 hdiscards
    rw [hi] at hchecked
    cases hchecked
  obtain ⟨_, hothers, hown, hfind⟩ := run_flattened rejecting sampleNamesakes hkeeps
  refine ⟨(hfind "shore").trans ?_, hown.trans ?_,
    (hothers .serviceProvider (by decide)).trans ?_⟩
  · decide +kernel
  · decide +kernel
  · decide +kernel

end ChainFilter

end AnchoredMetadata
