import AnchoredMetadata.Proofs.Metadata.Survivors
import AnchoredMetadata.Proofs.Repository.Making

/-!
# Filters for several roles

Filters that differ in their role only do not get in each other's way: what one
of them removes, no other looks at. So together they restrict a document to the
descriptors that survive all of them, unless one of them would discard it. Their
order does not matter then, nor does it whether a role is given twice, and to what
they have left they do nothing.
-/

namespace AnchoredMetadata.ChainFilter

/-! ## One filter before others -/

section One

variable {f g : ChainFilter} {m kept : Metadata}

/-- Later filters run on what the first one has left. -/
theorem metadata_runAll_cons (f : ChainFilter) (rest : List ChainFilter) (m : Metadata) :
    (runAll (f :: rest) m).metadata =
      (f.run m).metadata.bind fun kept => (runAll rest kept).metadata := by
  rw [runAll]
  cases h : (f.run m).metadata with
  | none => simpa only [Option.bind_none] using h
  | some kept => rfl

/-- A filter lets every descriptor of another role pass. -/
theorem survivesRole_of_role_ne {r : RoleDescriptor} (h : r.role ≠ f.role) :
    f.survivesRole r = true := by
  simp [survivesRole, h]

/-- What makes a filter discard a document is not removed by a filter for another role. -/
theorem failsIn_restrict_iff (h : ∀ r ∈ m.roles, ¬ f.FailsIn r) (hfg : g.role = f.role → g = f) :
    (∀ r ∈ (m.restrict f.survivesRole).roles, ¬ g.FailsIn r) ↔ ∀ r ∈ m.roles, ¬ g.FailsIn r := by
  rw [Metadata.roles_restrict]
  constructor
  · intro hrest r hr hfails
    by_cases hrole : g.role = f.role
    · obtain rfl := hfg hrole
      exact h r hr hfails
    · have hsurvives : f.survivesRole r = true := by
        apply survivesRole_of_role_ne
        rw [hfails.1]
        exact hrole
      exact hrest r (List.mem_filter.mpr ⟨hr, hsurvives⟩) hfails
  · intro hall r hr
    exact hall r (List.mem_filter.mp hr).1

end One

/-! ## All filters at once -/

section All

variable (validator : Validator) (store : TrustStore)

/-- The filter for a role. -/
def forRole (role : Role) : ChainFilter := ⟨role, validator, store⟩

/-- Whether a descriptor survives the filters for some roles. -/
def survivesRoles (roles : List Role) (r : RoleDescriptor) : Bool :=
  roles.all fun role => (forRole validator store role).survivesRole r

theorem survivesRoles_singleton (role : Role) :
    survivesRoles validator store [role] = (forRole validator store role).survivesRole := by
  funext r
  simp [survivesRoles]

theorem survivesRoles_cons (role : Role) (rest : List Role) :
    survivesRoles validator store (role :: rest) = fun r =>
      (forRole validator store role).survivesRole r && survivesRoles validator store rest r := by
  funext r
  simp [survivesRoles]

/-- What filters for some roles leave of a document: none of them discards it, a descriptor
survives all of them, and it is restricted to those that do. -/
structure Leaves (roles : List Role) (m kept : Metadata) : Prop where
  /-- No filter discards the document. -/
  keeps : ∀ role ∈ roles, ∀ r ∈ m.roles, ¬ (forRole validator store role).FailsIn r
  /-- A descriptor survives. -/
  meets : m.meets (survivesRoles validator store roles) = true
  /-- The descriptors that survive are left, with what they are in. -/
  eq_restrict : m.restrict (survivesRoles validator store roles) = kept

variable {validator store} {role : Role} {rest : List Role} {m kept : Metadata}

/-- One filter leaves what it leaves by itself. -/
theorem leaves_singleton_iff : Leaves validator store [role] m kept ↔
    ((forRole validator store role).run m).metadata = some kept := by
  rw [metadata_run_eq_some_iff, ← survivesRoles_singleton]
  constructor
  · rintro ⟨hkeeps, hmeets, heq⟩
    exact ⟨hkeeps role List.mem_cons_self, hmeets, heq⟩
  · rintro ⟨hkeeps, hmeets, heq⟩
    exact ⟨List.forall_mem_singleton.mpr hkeeps, hmeets, heq⟩

/-- Filters leave what the first one leaves and then the others. -/
theorem leaves_cons_iff : Leaves validator store (role :: rest) m kept ↔
    ∃ between, Leaves validator store [role] m between ∧
      Leaves validator store rest between kept := by
  have hsame (other : Role) : (forRole validator store other).role = role →
      forRole validator store other = forRole validator store role := congrArg _
  constructor
  · rintro ⟨hkeeps, hmeets, rfl⟩
    obtain ⟨hfirst, hothers⟩ := List.forall_mem_cons.mp hkeeps
    rw [survivesRoles_cons] at hmeets ⊢
    refine ⟨m.restrict (survivesRoles validator store [role]), ⟨?_, ?_, rfl⟩, ?_⟩
    · exact List.forall_mem_singleton.mpr hfirst
    · rw [survivesRoles_singleton]
      exact any_of_any_and _ _ hmeets
    · rw [survivesRoles_singleton]
      refine ⟨?_, ?_, ?_⟩
      · intro other hother
        exact (failsIn_restrict_iff hfirst (hsame other)).mpr (hothers other hother)
      · rw [Metadata.meets_restrict, hmeets]
      · rw [Metadata.restrict_restrict]
  · rintro ⟨between, ⟨hone, _, rfl⟩, hkeeps, hmeets, rfl⟩
    have hfirst := List.forall_mem_singleton.mp hone
    rw [survivesRoles_singleton] at hkeeps hmeets ⊢
    refine ⟨List.forall_mem_cons.mpr ⟨hfirst, ?_⟩, ?_, ?_⟩
    · intro other hother
      exact (failsIn_restrict_iff hfirst (hsame other)).mp (hkeeps other hother)
    · rw [survivesRoles_cons, ← Metadata.meets_restrict, hmeets]
    · rw [survivesRoles_cons, Metadata.restrict_restrict]

/-- Unless there are none, filters for roles do to a document all that they do at once. -/
theorem metadata_runAll_forRoles_eq_some_iff {roles : List Role} (hroles : roles ≠ []) :
    (runAll (forRoles roles validator store) m).metadata = some kept ↔
      Leaves validator store roles m kept := by
  induction roles generalizing m with
  | nil => exact absurd rfl hroles
  | cons role rest ih =>
    have hrun : (runAll (forRoles (role :: rest) validator store) m).metadata =
        ((forRole validator store role).run m).metadata.bind fun between =>
          (runAll (forRoles rest validator store) between).metadata :=
      metadata_runAll_cons _ _ m
    rw [hrun]
    by_cases hrest : rest = []
    · have hdone : (fun between => (runAll (forRoles [] validator store) between).metadata) =
          some := rfl
      rw [hrest, hdone, Option.bind_fun_some, leaves_singleton_iff]
    · rw [leaves_cons_iff, Option.bind_eq_some_iff]
      exact exists_congr fun between => and_congr leaves_singleton_iff.symm (ih hrest)

/-- To what filters have left of a document they do nothing. -/
theorem Leaves.again {roles : List Role} (h : Leaves validator store roles m kept) :
    Leaves validator store roles kept kept := by
  obtain ⟨hkeeps, hmeets, rfl⟩ := h
  refine ⟨?_, ?_, ?_⟩
  · intro role hrole r hr
    rw [Metadata.roles_restrict] at hr
    exact hkeeps role hrole r (List.mem_filter.mp hr).1
  · rw [Metadata.meets_restrict]
    simpa only [Bool.and_self] using hmeets
  · rw [Metadata.restrict_restrict]
    simp only [Bool.and_self]

/-- The same roles leave the same, in whatever order they are given. -/
theorem Leaves.congr {roles others : List Role} (h : Leaves validator store roles m kept)
    (hsame : ∀ role, role ∈ roles ↔ role ∈ others) : Leaves validator store others m kept := by
  have htest : survivesRoles validator store roles = survivesRoles validator store others := by
    funext r
    rw [survivesRoles, survivesRoles, Bool.eq_iff_iff, List.all_eq_true, List.all_eq_true]
    exact forall_congr' fun role => imp_congr_left (hsame role)
  obtain ⟨hkeeps, hmeets, heq⟩ := h
  rw [htest] at hmeets heq
  exact ⟨fun role hrole => hkeeps role ((hsame role).mpr hrole), hmeets, heq⟩

variable (validator store)

/-- The filters for some roles leave the same of a document, or nothing, in whatever order the
roles are given and however often; and to what they have left of a document they do nothing. -/
theorem runAll_forRoles_as_set (m : Metadata) :
    (∀ roles others : List Role, (∀ role, role ∈ roles ↔ role ∈ others) →
      (runAll (forRoles roles validator store) m).metadata =
        (runAll (forRoles others validator store) m).metadata) ∧
    ∀ (roles : List Role) (kept : Metadata),
      (runAll (forRoles roles validator store) m).metadata = some kept →
        (runAll (forRoles roles validator store) kept).metadata = some kept := by
  constructor
  · intro roles others h
    by_cases hroles : roles = []
    · have hothers : others = [] := by
        rw [List.eq_nil_iff_forall_not_mem]
        intro role hrole
        have hin := (h role).mpr hrole
        rw [hroles] at hin
        exact absurd hin List.not_mem_nil
      rw [hroles, hothers]
    · have hothers : others ≠ [] := by
        obtain ⟨role, hrole⟩ := List.exists_mem_of_ne_nil roles hroles
        exact List.ne_nil_of_mem ((h role).mp hrole)
      apply Option.ext
      intro kept
      rw [metadata_runAll_forRoles_eq_some_iff hroles,
        metadata_runAll_forRoles_eq_some_iff hothers]
      exact ⟨fun hleaves => hleaves.congr h, fun hleaves => hleaves.congr fun role => (h role).symm⟩
  · intro roles kept hkept
    by_cases hroles : roles = []
    · rw [hroles]
      rfl
    · rw [metadata_runAll_forRoles_eq_some_iff hroles] at hkept ⊢
      exact hkept.again

end All

/-- Where all certificates are rejected, it makes no difference that the filters are swapped and
one is repeated, or that they run again. -/
theorem swapped_filters_agree :
    let filters (roles : List Role) := forRoles roles (fun _ _ => .rejected "untrusted") (.empty "")
    let m := sampleHub [⟨.signing, Repository.sampleAnchor.chain⟩]
    ∃ kept, (runAll (filters [.identityProvider, .serviceProvider]) m).metadata = some kept ∧
      (runAll (filters [.serviceProvider, .identityProvider, .serviceProvider]) m).metadata =
        some kept ∧
      (runAll (filters [.identityProvider, .serviceProvider]) kept).metadata = some kept := by
  intro filters m
  obtain ⟨hset, hagain⟩ := runAll_forRoles_as_set (fun _ _ => .rejected "untrusted") (.empty "") m
  have hleft : (runAll (filters [.identityProvider, .serviceProvider]) m).metadata.isSome =
      true := by decide +kernel
  obtain ⟨kept, hkept⟩ := Option.isSome_iff_exists.mp hleft
  refine ⟨kept, hkept, ?_, hagain _ kept hkept⟩
  rw [← hkept]
  apply hset
  intro role
  cases role <;> decide

end AnchoredMetadata.ChainFilter
