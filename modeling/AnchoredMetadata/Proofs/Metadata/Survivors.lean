import AnchoredMetadata.Proofs.Metadata.Filter
import AnchoredMetadata.Proofs.Metadata.Restrict

/-!
# What survives

A filter restricts a document to the descriptors that survive. So what several
filters leave of a document are entities of this document, with descriptors that
every one of the filters lets pass.
-/

namespace AnchoredMetadata.ChainFilter

variable {f : ChainFilter}

/-! ## Documents restricted to what survives -/

section Restricted

variable (f)

mutual

/-- A group survives when a descriptor in it does. -/
theorem survivesGroup_eq_meets : (g : Group) → f.survivesGroup g = g.meets f.survivesRole
  | .mk name id entities groups => by
    rw [survivesGroup, Group.meets, Group.roles, Group.allEntities, List.flatMap_append,
      List.any_append, List.any_flatMap, survivesAny_eq_any groups]
    rfl

theorem survivesAny_eq_any : (groups : List Group) →
    f.survivesAny groups =
      ((Group.allEntitiesOf groups).flatMap Entity.roles).any f.survivesRole
  | [] => rfl
  | g :: rest => by
    rw [survivesAny, Group.allEntitiesOf, List.flatMap_append, List.any_append,
      survivesGroup_eq_meets g, survivesAny_eq_any rest]
    rfl

end

mutual

/-- What survives of a group is the group restricted to the descriptors that do. -/
theorem trimGroup_eq_restrict : (g : Group) → f.trimGroup g = g.restrict f.survivesRole
  | .mk name id entities groups => by
    rw [trimGroup, Group.restrict, trimGroups_eq_restrictAll groups]
    rfl

theorem trimGroups_eq_restrictAll : (groups : List Group) →
    f.trimGroups groups = Group.restrictAll f.survivesRole groups
  | [] => rfl
  | g :: rest => by
    rw [trimGroups, Group.restrictAll, survivesGroup_eq_meets, trimGroup_eq_restrict g,
      trimGroups_eq_restrictAll rest]

end

/-- A document survives when a descriptor in it does. -/
theorem survives_eq_meets (m : Metadata) : f.survives m = m.meets f.survivesRole := by
  cases m with
  | entity e => simp [survives, survivesEntity, Metadata.meets, Metadata.roles, Metadata.entities]
  | group g => exact survivesGroup_eq_meets f g

/-- What survives of a document is the document restricted to the descriptors that do. -/
theorem trim_eq_restrict (m : Metadata) : f.trim m = m.restrict f.survivesRole := by
  cases m with
  | entity e => rfl
  | group g => exact congrArg Metadata.group (trimGroup_eq_restrict f g)

/-- A document is discarded when checking fails in one of its descriptors. -/
theorem discards_iff {m : Metadata} : f.Discards m ↔ ∃ r ∈ m.roles, f.FailsIn r := by
  simp only [Discards, FailsWithin, Metadata.roles, List.mem_flatMap]
  constructor
  · rintro ⟨e, he, r, hr, hfails⟩
    exact ⟨r, ⟨e, he, hr⟩, hfails⟩
  · rintro ⟨r, ⟨e, he, hr⟩, hfails⟩
    exact ⟨e, he, r, hr, hfails⟩

end Restricted

/-! ## What a run leaves -/

/-- A filter leaves something of a document that it does not discard and in which a descriptor
survives, and that is the document restricted to those that do. -/
theorem metadata_run_eq_some_iff {m kept : Metadata} :
    (f.run m).metadata = some kept ↔
      (∀ r ∈ m.roles, ¬ f.FailsIn r) ∧ m.meets f.survivesRole = true ∧
        m.restrict f.survivesRole = kept := by
  have hsettles := settles_prune (f := f) m
  have hkeeps : (∀ r ∈ m.roles, ¬ f.FailsIn r) ↔ ¬ f.Discards m := by
    rw [discards_iff, not_exists]
    exact forall_congr' fun r => not_and.symm
  rw [hkeeps, ← survives_eq_meets, ← trim_eq_restrict]
  unfold run
  dsimp only
  by_cases hdiscards : f.Discards m
  · obtain ⟨i, hi⟩ := hsettles.1 hdiscards
    rw [hi]
    cases i <;> simp [hdiscards]
  · rw [hsettles.2 hdiscards]
    cases f.survives m <;> simp [hdiscards]

/-- An entity that a filter leaves is one of the document, with descriptors that survive. -/
theorem exists_entity_of_run {m kept : Metadata} (h : (f.run m).metadata = some kept) {e : Entity}
    (he : e ∈ kept.entities) :
    ∃ old ∈ m.entities, old.id = e.id ∧
      ∀ d ∈ e.roles, d ∈ old.roles ∧ f.survivesRole d = true := by
  obtain ⟨-, hmeets, rfl⟩ := metadata_run_eq_some_iff.mp h
  rw [Metadata.entities_restrict _ hmeets] at he
  obtain ⟨old, hold, rfl⟩ := List.mem_map.mp he
  refine ⟨old, (List.mem_filter.mp hold).1, rfl, ?_⟩
  intro d hd
  exact List.mem_filter.mp hd

/-- An entity that several filters leave is one of the document, with descriptors that survive
every one of them. -/
theorem exists_entity_of_runAll {filters : List ChainFilter} {m kept : Metadata}
    (h : (runAll filters m).metadata = some kept) {e : Entity} (he : e ∈ kept.entities) :
    ∃ old ∈ m.entities, old.id = e.id ∧
      ∀ d ∈ e.roles, d ∈ old.roles ∧ ∀ g ∈ filters, g.survivesRole d = true := by
  induction filters generalizing m with
  | nil =>
    obtain rfl := Option.some.inj h
    exact ⟨e, he, rfl, fun d hd => ⟨hd, nofun⟩⟩
  | cons g rest ih =>
    rw [runAll] at h
    cases hg : (g.run m).metadata with
    | none =>
      simp only [hg] at h
      exact absurd h (by simp)
    | some between =>
      simp only [hg] at h
      obtain ⟨mid, hmid, hid, hlater⟩ := ih h
      obtain ⟨old, hold, hid', hfirst⟩ := exists_entity_of_run hg hmid
      refine ⟨old, hold, hid'.trans hid, ?_⟩
      intro d hd
      obtain ⟨hin, hrest⟩ := hlater d hd
      obtain ⟨hin', hpass⟩ := hfirst d hin
      exact ⟨hin', List.forall_mem_cons.mpr ⟨hpass, hrest⟩⟩

/-- A key passes when all its certificates can be decoded and are accepted. -/
theorem passes_iff {k : KeyDescriptor} :
    f.passes k = true ↔ ∀ text ∈ k.certificates,
      ∃ c, Certificate.ofBase64 text = .ok c ∧ f.validator c f.store = .accepted := by
  rw [passes, List.all_eq_true]
  refine forall₂_congr fun text _ => ?_
  unfold acceptsText accepts
  cases Certificate.ofBase64 text <;> simp

/-- In a descriptor of the filter's role that survives, every certificate was accepted. -/
theorem survivesRole_iff {d : RoleDescriptor} (hrole : d.role = f.role) :
    f.survivesRole d = true ↔ ∀ k ∈ d.keys, ∀ text ∈ k.certificates,
      ∃ c, Certificate.ofBase64 text = .ok c ∧ f.validator c f.store = .accepted := by
  have hchecked : f.survivesRole d = d.keys.all f.passes := by simp [survivesRole, hrole]
  rw [hchecked, List.all_eq_true]
  exact forall₂_congr fun k _ => passes_iff

/-! ## A sample -/

/-- A document with one entity that is a provider with some keys, and a service without. -/
def sampleHub (keys : List KeyDescriptor) : Metadata :=
  .entity ⟨"https://hub.example", [⟨.identityProvider, keys⟩, ⟨.serviceProvider, []⟩]⟩

end AnchoredMetadata.ChainFilter
