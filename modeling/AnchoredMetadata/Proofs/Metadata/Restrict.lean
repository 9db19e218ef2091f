import AnchoredMetadata.Metadata.Tree

/-!
# Documents restricted to some descriptors

A document restricted to a test of role descriptors keeps the descriptors that
pass it, the entities that have one, and the groups that have such an entity,
all in their places. Seen as a list of descriptors it is filtered, so to restrict
it to one test after another is to restrict it to both at once.
-/

namespace AnchoredMetadata

variable (test other : RoleDescriptor → Bool)

/-- Where a descriptor passes two tests, one passes the first. -/
theorem any_of_any_and {roles : List RoleDescriptor}
    (h : (roles.any fun r => test r && other r) = true) : roles.any test = true := by
  obtain ⟨r, hr, hboth⟩ := List.any_eq_true.mp h
  exact List.any_eq_true.mpr ⟨r, hr, (Bool.and_eq_true_iff.mp hboth).1⟩

/-! ## Entities -/

namespace Entity

/-- Whether a descriptor of the entity passes. -/
def meets (e : Entity) : Bool := e.roles.any test

/-- The entity with the descriptors that pass. -/
def restrict (e : Entity) : Entity := ⟨e.id, e.roles.filter test⟩

/-- Descriptors that pass are not lost with the entities that have none. -/
theorem flatMap_roles_restrict (entities : List Entity) :
    ((entities.filter (meets test)).map (restrict test)).flatMap roles =
      (entities.flatMap roles).filter test := by
  induction entities with
  | nil => rfl
  | cons e rest ih =>
    rw [List.flatMap_cons, List.filter_append, ← ih]
    by_cases h : e.meets test = true
    · rw [List.filter_cons_of_pos h, List.map_cons, List.flatMap_cons, restrict]
    · have hnone : e.roles.filter test = [] := by
        rw [List.filter_eq_nil_iff]
        simpa [meets] using h
      rw [List.filter_cons_of_neg h, hnone, List.nil_append]

theorem meets_restrict (e : Entity) :
    (e.restrict test).meets other = e.meets fun r => test r && other r := by
  rw [meets, meets, restrict, List.any_filter]

theorem restrict_restrict (e : Entity) :
    (e.restrict test).restrict other = e.restrict fun r => test r && other r := by
  simp only [restrict, List.filter_filter, Bool.and_comm]

theorem map_restrict_restrict (entities : List Entity) :
    ((((entities.filter (meets test)).map (restrict test)).filter (meets other)).map
      (restrict other)) =
      (entities.filter (meets fun r => test r && other r)).map
        (restrict fun r => test r && other r) := by
  induction entities with
  | nil => rfl
  | cons e rest ih =>
    by_cases hboth : e.meets (fun r => test r && other r) = true
    · have hfirst : e.meets test = true := any_of_any_and test other hboth
      have hsecond : (e.restrict test).meets other = true := by rw [meets_restrict, hboth]
      rw [List.filter_cons_of_pos hfirst, List.map_cons, List.filter_cons_of_pos hsecond,
        List.map_cons, ih, List.filter_cons_of_pos hboth, List.map_cons, restrict_restrict]
    · rw [List.filter_cons_of_neg hboth, ← ih]
      by_cases hfirst : e.meets test = true
      · have hsecond : ¬ (e.restrict test).meets other = true := by rwa [meets_restrict]
        rw [List.filter_cons_of_pos hfirst, List.map_cons, List.filter_cons_of_neg hsecond]
      · rw [List.filter_cons_of_neg hfirst]

end Entity

/-! ## Groups -/

namespace Group

/-- Every descriptor in a group. -/
def roles (g : Group) : List RoleDescriptor := g.allEntities.flatMap Entity.roles

/-- Whether a descriptor in a group passes. -/
def meets (g : Group) : Bool := g.roles.any test

mutual

/-- A group with the descriptors that pass, and without what is empty then. -/
def restrict : Group → Group
  | .mk name id entities groups =>
    .mk name id ((entities.filter (Entity.meets test)).map (Entity.restrict test))
      (restrictAll groups)

/-- The groups in which a descriptor passes, each with those that do. -/
def restrictAll : List Group → List Group
  | [] => []
  | g :: rest => if g.meets test then restrict g :: restrictAll rest else restrictAll rest

end

/-- In a group without a descriptor that passes no entity has one. -/
theorem filter_allEntities_of_not_meets {g : Group} (h : ¬ g.meets test = true) :
    g.allEntities.filter (Entity.meets test) = [] := by
  rw [List.filter_eq_nil_iff]
  intro e he hmeets
  apply h
  rw [meets, roles, List.any_flatMap]
  exact List.any_eq_true.mpr ⟨e, he, hmeets⟩

mutual

theorem allEntities_restrict : (g : Group) →
    (g.restrict test).allEntities =
      (g.allEntities.filter (Entity.meets test)).map (Entity.restrict test)
  | .mk name id entities groups => by
    rw [restrict, allEntities, allEntities, List.filter_append, List.map_append,
      allEntitiesOf_restrictAll groups]

theorem allEntitiesOf_restrictAll : (groups : List Group) →
    allEntitiesOf (restrictAll test groups) =
      ((allEntitiesOf groups).filter (Entity.meets test)).map (Entity.restrict test)
  | [] => rfl
  | g :: rest => by
    rw [restrictAll, allEntitiesOf, List.filter_append, List.map_append,
      ← allEntitiesOf_restrictAll rest]
    by_cases h : g.meets test = true
    · rw [if_pos h, allEntitiesOf, allEntities_restrict g]
    · rw [if_neg h, filter_allEntities_of_not_meets test h, List.map_nil, List.nil_append]

end

theorem roles_restrict (g : Group) : (g.restrict test).roles = g.roles.filter test := by
  rw [roles, allEntities_restrict, Entity.flatMap_roles_restrict, roles]

mutual

/-- In a group without a descriptor that passes no group has one. -/
theorem not_meets_of_mem_allGroups : (g : Group) → ¬ g.meets test = true →
    ∀ n ∈ g.allGroups, ¬ n.meets test = true
  | .mk name id entities groups, h => by
    have hnested : ¬ ((allEntitiesOf groups).flatMap Entity.roles).any test = true := by
      intro hany
      rw [meets, roles, allEntities, List.flatMap_append, List.any_append, hany, Bool.or_true] at h
      exact h rfl
    rw [allGroups, List.forall_mem_cons]
    exact ⟨h, not_meets_of_mem_allGroupsOf groups hnested⟩

theorem not_meets_of_mem_allGroupsOf : (groups : List Group) →
    ¬ ((allEntitiesOf groups).flatMap Entity.roles).any test = true →
    ∀ n ∈ allGroupsOf groups, ¬ n.meets test = true
  | [], _ => nofun
  | g :: rest, h => by
    rw [allEntitiesOf, List.flatMap_append, List.any_append, Bool.or_eq_true, not_or] at h
    rw [allGroupsOf, List.forall_mem_append]
    exact ⟨not_meets_of_mem_allGroups g h.1, not_meets_of_mem_allGroupsOf rest h.2⟩

end

mutual

/-- A group with a descriptor that passes keeps the groups that have one. -/
theorem allGroups_restrict : (g : Group) → g.meets test = true →
    (g.restrict test).allGroups = (g.allGroups.filter (meets test)).map (restrict test)
  | .mk name id entities groups, h => by
    rw [allGroups, List.filter_cons_of_pos h, List.map_cons, ← allGroupsOf_restrictAll groups,
      restrict, allGroups]

theorem allGroupsOf_restrictAll : (groups : List Group) →
    allGroupsOf (restrictAll test groups) =
      ((allGroupsOf groups).filter (meets test)).map (restrict test)
  | [] => rfl
  | g :: rest => by
    rw [restrictAll, allGroupsOf, List.filter_append, List.map_append,
      ← allGroupsOf_restrictAll rest]
    by_cases h : g.meets test = true
    · rw [if_pos h, allGroupsOf, allGroups_restrict g h]
    · rw [if_neg h, List.filter_eq_nil_iff.mpr (not_meets_of_mem_allGroups test g h), List.map_nil,
        List.nil_append]

end

theorem meets_restrict (g : Group) :
    (g.restrict test).meets other = g.meets fun r => test r && other r := by
  rw [meets, meets, roles_restrict, List.any_filter]

mutual

theorem restrict_restrict : (g : Group) →
    (g.restrict test).restrict other = g.restrict fun r => test r && other r
  | .mk name id entities groups => by
    rw [restrict, restrict, restrict, Entity.map_restrict_restrict,
      restrictAll_restrictAll groups]

theorem restrictAll_restrictAll : (groups : List Group) →
    restrictAll other (restrictAll test groups) =
      restrictAll (fun r => test r && other r) groups
  | [] => rfl
  | g :: rest => by
    rw [restrictAll, restrictAll, ← restrictAll_restrictAll rest]
    by_cases h : g.meets test = true
    · rw [if_pos h, restrictAll, meets_restrict, restrict_restrict g]
    · have hboth : ¬ g.meets (fun r => test r && other r) = true :=
        fun hmeets => h (any_of_any_and test other hmeets)
      rw [if_neg h, if_neg hboth]

end

end Group

/-! ## Documents -/

namespace Metadata

/-- Every descriptor in a document. -/
def roles (m : Metadata) : List RoleDescriptor := m.entities.flatMap Entity.roles

/-- Whether a descriptor in a document passes. -/
def meets (m : Metadata) : Bool := m.roles.any test

/-- A document with the descriptors that pass, and without what is empty then. -/
def restrict : Metadata → Metadata
  | .entity e => .entity (e.restrict test)
  | .group g => .group (g.restrict test)

/-- Seen as descriptors, a restricted document is filtered. -/
theorem roles_restrict (m : Metadata) : (m.restrict test).roles = m.roles.filter test := by
  cases m with
  | entity e => simp [restrict, roles, entities, Entity.restrict]
  | group g => exact g.roles_restrict test

theorem meets_restrict (m : Metadata) :
    (m.restrict test).meets other = m.meets fun r => test r && other r := by
  rw [meets, meets, roles_restrict, List.any_filter]

/-- Restricting to one test after another is restricting to both. -/
theorem restrict_restrict (m : Metadata) :
    (m.restrict test).restrict other = m.restrict fun r => test r && other r := by
  cases m with
  | entity e => exact congrArg Metadata.entity (e.restrict_restrict test other)
  | group g => exact congrArg Metadata.group (g.restrict_restrict test other)

/-- A document that keeps a descriptor keeps the entities that do. -/
theorem entities_restrict {m : Metadata} (h : m.meets test = true) :
    (m.restrict test).entities =
      (m.entities.filter (Entity.meets test)).map (Entity.restrict test) := by
  cases m with
  | entity e =>
    have he : e.meets test = true := by
      simpa [meets, roles, entities, Entity.meets] using h
    rw [restrict, entities, entities, List.filter_cons_of_pos he, List.filter_nil, List.map_cons,
      List.map_nil]
  | group g => exact g.allEntities_restrict test

end Metadata

end AnchoredMetadata
