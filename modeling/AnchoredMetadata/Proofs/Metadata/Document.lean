import AnchoredMetadata.Metadata.Document
import AnchoredMetadata.Proofs.Json.Accepted
import AnchoredMetadata.Proofs.Json.Records

/-!
# Documents read back

A written metadata tree reads back as itself while its brackets stay below the limit, and is refused
with the limit as the reason when they do not. A tree that was read from any document can be written
within the limit, although writing spells out lists that the document may have left out: the lists
of a record stand one bracket below it, and a record is only read where two more are left.
-/

namespace AnchoredMetadata.Metadata

open Json

/-! ## Keys -/

theorem lookup_useChoices (u : KeyUse) : useChoices.lookup u.word = some u := by
  cases u <;> rfl

/-- The members of a written key descriptor. -/
def keyMembers (k : KeyDescriptor) : List Member :=
  [⟨"use", writeString k.keyUse.word⟩, ⟨"certificates", writeTexts k.certificates⟩]

theorem isValue_writeTexts (texts : List String) : IsValue (writeTexts texts) :=
  isValue_list fun s _ => isValue_string s

theorem keyMembers_values (k : KeyDescriptor) : ∀ m ∈ keyMembers k, IsValue m.value :=
  List.forall_mem_cons.mpr
    ⟨isValue_string _, List.forall_mem_singleton.mpr (isValue_writeTexts k.certificates)⟩

theorem isValue_writeKey (k : KeyDescriptor) : IsValue (writeKey k) :=
  isValue_object (keyMembers_values k)

theorem reads_texts (texts : List String) (depth : Nat) :
    Reads (readList depth readText) depth (writeTexts texts) texts :=
  reads_list (fun s _ => isValue_string s) fun hdepth s _ => reads_string _ (by omega) s

theorem reads_key (k : KeyDescriptor) (depth : Nat) :
    Reads (readKey depth) depth (writeKey k) k := by
  have hfills (hdepth : 1 < depth) : Fills (keyFields depth) (depth - 1) ⟨none, none⟩ (keyMembers k)
      ⟨some k.keyUse, some k.certificates⟩ :=
    .cons rfl rfl ((reads_choice (lookup_useChoices k.keyUse) (by omega)).named _ _ _ _)
      (.cons rfl rfl ((reads_texts k.certificates (depth - 1)).named _ _ _ _) (.nil _))
  have hrecord := reads_record "KeyDescriptor" (keyMembers_values k) hfills rfl
  exact hrecord.finish fun rest => rfl

/-! ## Roles -/

theorem lookup_roleChoices (r : Role) : roleChoices.lookup r.elementName = some r := by
  cases r <;> rfl

/-- The members of a written role descriptor. -/
def roleMembers (r : RoleDescriptor) : List Member :=
  [⟨"role", writeString r.role.elementName⟩, ⟨"key_descriptors", writeList (r.keys.map writeKey)⟩]

theorem roleMembers_values (r : RoleDescriptor) : ∀ m ∈ roleMembers r, IsValue m.value :=
  List.forall_mem_cons.mpr
    ⟨isValue_string _, List.forall_mem_singleton.mpr (isValue_list fun k _ => isValue_writeKey k)⟩

theorem isValue_writeRole (r : RoleDescriptor) : IsValue (writeRole r) :=
  isValue_object (roleMembers_values r)

theorem reads_role (r : RoleDescriptor) (depth : Nat) :
    Reads (readRole depth) depth (writeRole r) r := by
  have hkeys : Reads (readList (depth - 1) (readKey (depth - 2))) (depth - 1)
      (writeList (r.keys.map writeKey)) r.keys :=
    reads_list (fun k _ => isValue_writeKey k) fun _ k _ => reads_key k (depth - 2)
  have hfills (hdepth : 1 < depth) : Fills (roleFields depth) (depth - 1) ⟨none, none⟩
      (roleMembers r) ⟨some r.role, some r.keys⟩ :=
    .cons rfl rfl ((reads_choice (lookup_roleChoices r.role) (by omega)).named _ _ _ _)
      (.cons rfl rfl (hkeys.named _ _ _ _) (.nil _))
  have hrecord := reads_record "RoleDescriptor" (roleMembers_values r) hfills rfl
  exact hrecord.finish fun rest => rfl

/-! ## Entities -/

/-- The members of a written entity. -/
def entityMembers (e : Entity) : List Member :=
  [⟨"entity_id", writeString e.id⟩, ⟨"roles", writeList (e.roles.map writeRole)⟩]

theorem entityMembers_values (e : Entity) : ∀ m ∈ entityMembers e, IsValue m.value :=
  List.forall_mem_cons.mpr
    ⟨isValue_string _, List.forall_mem_singleton.mpr (isValue_list fun r _ => isValue_writeRole r)⟩

theorem isValue_writeEntity (e : Entity) : IsValue (writeEntity e) :=
  isValue_object (entityMembers_values e)

theorem reads_entity (e : Entity) (depth : Nat) :
    Reads (readEntity depth) depth (writeEntity e) e := by
  have hroles : Reads (readList (depth - 1) (readRole (depth - 2))) (depth - 1)
      (writeList (e.roles.map writeRole)) e.roles :=
    reads_list (fun r _ => isValue_writeRole r) fun _ r _ => reads_role r (depth - 2)
  have hfills (hdepth : 1 < depth) : Fills (entityFields depth) (depth - 1) ⟨none, none⟩
      (entityMembers e) ⟨some e.id, some e.roles⟩ :=
    .cons rfl rfl ((reads_string _ (by omega) e.id).named _ _ _ _)
      (.cons rfl rfl (hroles.named _ _ _ _) (.nil _))
  have hrecord := reads_record "EntityDescriptor" (entityMembers_values e) hfills rfl
  exact hrecord.finish fun rest => rfl

/-! ## Groups -/

theorem writeGroups_eq_map (groups : List Group) : writeGroups groups = groups.map writeGroup := by
  induction groups with
  | nil => rw [writeGroups, List.map_nil]
  | cons g rest ih => rw [writeGroups, ih, List.map_cons]

/-- The member of a text, unless it is left out. -/
def optionalMember (key : String) (text : Option String) : List Member :=
  text.toList.map fun s => ⟨key, writeString s⟩

/-- The members of a written group. -/
def groupMembers (g : Group) : List Member :=
  optionalMember "name" g.name ++ (optionalMember "id" g.id ++
    [⟨"entities", writeList (g.entities.map writeEntity)⟩,
      ⟨"groups", writeList (g.groups.map writeGroup)⟩])

theorem writeGroup_eq (g : Group) :
    writeGroup g = writeObject ((groupMembers g).map Member.text) := by
  obtain ⟨name, id, entities, groups⟩ := g
  rw [writeGroup, writeGroups_eq_map]
  cases name <;> cases id <;> rfl

theorem optionalMember_values (key : String) (text : Option String) :
    ∀ m ∈ optionalMember key text, IsValue m.value :=
  List.forall_mem_map.mpr fun s _ => isValue_string s

theorem groupMembers_values {g : Group} (h : ∀ n ∈ g.groups, IsValue (writeGroup n)) :
    ∀ m ∈ groupMembers g, IsValue m.value := by
  refine List.forall_mem_append.mpr ⟨optionalMember_values _ _, ?_⟩
  refine List.forall_mem_append.mpr ⟨optionalMember_values _ _, ?_⟩
  exact List.forall_mem_cons.mpr ⟨isValue_list fun e _ => isValue_writeEntity e,
    List.forall_mem_singleton.mpr (isValue_list h)⟩

mutual

theorem isValue_writeGroup : ∀ g : Group, IsValue (writeGroup g)
  | .mk name id entities groups => by
    rw [writeGroup_eq]
    exact isValue_object (groupMembers_values (isValue_writeGroups groups))

theorem isValue_writeGroups : ∀ groups : List Group, ∀ g ∈ groups, IsValue (writeGroup g)
  | [] => nofun
  | g :: rest => List.forall_mem_cons.mpr ⟨isValue_writeGroup g, isValue_writeGroups rest⟩

end

/-- A text that may be left out is kept, or stays not given. -/
theorem reads_optionalText {depth : Nat} (hdepth : 0 < depth) (s : String) :
    Reads (readOptional readText) depth (writeString s) (some s) :=
  reads_optional (isValue_string s) (reads_string _ hdepth s)

theorem reads_groupWith {nested : Reader Group} {g : Group} {depth : Nat}
    (h : ∀ n ∈ g.groups, Reads nested (depth - 2) (writeGroup n) n) :
    Reads (readGroupWith nested depth) depth (writeGroup g) g := by
  obtain ⟨name, id, entities, groups⟩ := g
  have hentities : Reads (readList (depth - 1) (readEntity (depth - 2))) (depth - 1)
      (writeList (entities.map writeEntity)) entities :=
    reads_list (fun e _ => isValue_writeEntity e) fun _ e _ => reads_entity e (depth - 2)
  have hgroups : Reads (readList (depth - 1) nested) (depth - 1)
      (writeList (groups.map writeGroup)) groups :=
    reads_list (fun n _ => isValue_writeGroup n) fun _ n hn => h n hn
  have hfills (hdepth : 1 < depth) : Fills (groupFields nested depth) (depth - 1)
      ⟨none, none, none, none⟩ (groupMembers (.mk name id entities groups))
      ⟨name.map some, id.map some, some entities, some groups⟩ := by
    have hname : Fills (groupFields nested depth) (depth - 1) ⟨none, none, none, none⟩
        (optionalMember "name" name) ⟨name.map some, none, none, none⟩ := by
      cases name with
      | none => exact .nil _
      | some s =>
        exact .cons rfl rfl ((reads_optionalText (by omega) s).named _ _ _ _) (.nil _)
    have hid : Fills (groupFields nested depth) (depth - 1) ⟨name.map some, none, none, none⟩
        (optionalMember "id" id) ⟨name.map some, id.map some, none, none⟩ := by
      cases id with
      | none => exact .nil _
      | some s =>
        exact .cons rfl rfl ((reads_optionalText (by omega) s).named _ _ _ _) (.nil _)
    exact hname.append (hid.append (.cons rfl rfl (hentities.named _ _ _ _)
      (.cons rfl rfl (hgroups.named _ _ _ _) (.nil _))))
  have hrecord := reads_record "EntitiesDescriptor"
    (groupMembers_values (g := .mk name id entities groups) (isValue_writeGroups groups)) hfills rfl
  rw [writeGroup_eq]
  refine hrecord.finish fun rest => ?_
  cases name <;> cases id <;> rfl

/-- Where no bracket is left every value is too deep. -/
theorem reads_none (text : List Char) (g : Group) :
    Reads (fun _ => .error .recursionLimit) 0 text g := by
  intro rest
  rw [if_neg (Nat.not_lt_zero _)]

mutual

/-- Each level of groups takes two brackets. -/
theorem reads_group : ∀ (g : Group) (depth : Nat),
    Reads (readGroup depth) depth (writeGroup g) g
  | .mk _ _ _ _, 0 => by
    rw [readGroup]
    exact reads_groupWith fun n _ => reads_none _ n
  | .mk _ _ _ _, 1 => by
    rw [readGroup]
    exact reads_groupWith fun n _ => reads_none _ n
  | .mk _ _ _ groups, depth + 2 => by
    rw [readGroup]
    exact reads_groupWith (reads_groups groups depth)

theorem reads_groups : ∀ (groups : List Group) (depth : Nat),
    ∀ g ∈ groups, Reads (readGroup depth) depth (writeGroup g) g
  | [], _ => nofun
  | g :: rest, depth => List.forall_mem_cons.mpr ⟨reads_group g depth, reads_groups rest depth⟩

end

/-! ## Whole documents -/

theorem reads_tree (m : Metadata) (depth : Nat) : Reads (readTree depth) depth (write m) m := by
  cases m with
  | entity e =>
    exact reads_tagged (m := ⟨"entity", writeEntity e⟩) rfl (isValue_writeEntity e)
      fun _ => (reads_entity e (depth - 1)).map Metadata.entity
  | group g =>
    exact reads_tagged (m := ⟨"group", writeGroup g⟩) rfl (isValue_writeGroup g)
      fun _ => (reads_group g (depth - 1)).map Metadata.group

/-! ## What was read can be written -/

/-- A text can be read where an odd number of brackets is left, as everywhere outside of a list. -/
def Fits (text : List Char) (depth : Nat) : Prop := depth % 2 = 1 → nesting text < depth

theorem fits_object {members : List Member} {depth : Nat} (hvalues : ∀ m ∈ members, IsValue m.value)
    (hdepth : 1 < depth) (h : depth % 2 = 1 → ∀ m ∈ members, nesting m.value < depth - 1) :
    Fits (writeObject (members.map Member.text)) depth :=
  fun hodd => (nesting_writeObject_lt_iff hvalues hdepth).mpr (h hodd)

theorem nesting_list_lt {α : Type} {write : α → List Char} {xs : List α} {depth : Nat}
    (hvalues : ∀ x ∈ xs, IsValue (write x)) (hodd : depth % 2 = 1) (hdepth : 1 < depth)
    (h : ∀ x ∈ xs, Fits (write x) (depth - 2)) :
    nesting (writeList (xs.map write)) < depth - 1 :=
  (nesting_writeList_lt_iff hvalues (by omega)).mpr fun x hx => h x hx (by omega)

theorem fits_key (depth : Nat) : Gives (readKey depth) fun k => Fits (writeKey k) depth := by
  have hkeeps : Keeps (keyFields depth) fun _ => True := fun f _ _ _ _ _ _ _ => trivial
  refine (hkeeps.record trivial).finish fun s _ k _ hs _ => ?_
  refine fits_object (keyMembers_values k) hs.1 fun hodd => ?_
  refine List.forall_mem_cons.mpr ⟨?_, List.forall_mem_singleton.mpr ?_⟩
  · rw [nesting_writeString]
    omega
  · refine nesting_list_lt (fun s _ => isValue_string s) hodd hs.1 fun s _ hodd' => ?_
    rw [nesting_writeString]
    omega

theorem keeps_roleFields (depth : Nat) : Keeps (roleFields depth) fun s =>
    ∀ k ∈ s.keys.getD [], Fits (writeKey k) (depth - 2) :=
  List.forall_mem_cons.mpr ⟨gives_named (gives_true _) fun _ _ hs _ => hs,
    List.forall_mem_singleton.mpr
      (gives_named (gives_list (fits_key (depth - 2))) fun _ _ _ hkeys => hkeys.2)⟩

theorem fits_role (depth : Nat) : Gives (readRole depth) fun r => Fits (writeRole r) depth := by
  refine ((keeps_roleFields depth).record (List.forall_mem_nil _)).finish fun s _ r _ hs hr => ?_
  obtain ⟨hdepth, hkeys⟩ := hs
  cases hrole : s.role with
  | none =>
    simp only [hrole] at hr
    cases hr
  | some role =>
    simp only [hrole] at hr
    cases hr
    refine fits_object (roleMembers_values _) hdepth fun hodd => ?_
    refine List.forall_mem_cons.mpr ⟨?_, List.forall_mem_singleton.mpr ?_⟩
    · rw [nesting_writeString]
      omega
    · exact nesting_list_lt (fun k _ => isValue_writeKey k) hodd hdepth hkeys

theorem keeps_entityFields (depth : Nat) : Keeps (entityFields depth) fun s =>
    ∀ r ∈ s.roles.getD [], Fits (writeRole r) (depth - 2) :=
  List.forall_mem_cons.mpr ⟨gives_named (gives_true _) fun _ _ hs _ => hs,
    List.forall_mem_singleton.mpr
      (gives_named (gives_list (fits_role (depth - 2))) fun _ _ _ hroles => hroles.2)⟩

theorem fits_entity (depth : Nat) :
    Gives (readEntity depth) fun e => Fits (writeEntity e) depth := by
  refine ((keeps_entityFields depth).record (List.forall_mem_nil _)).finish fun s _ e _ hs he => ?_
  obtain ⟨hdepth, hroles⟩ := hs
  cases hid : s.id with
  | none =>
    simp only [hid] at he
    cases he
  | some id =>
    simp only [hid] at he
    cases he
    refine fits_object (entityMembers_values _) hdepth fun hodd => ?_
    refine List.forall_mem_cons.mpr ⟨?_, List.forall_mem_singleton.mpr ?_⟩
    · rw [nesting_writeString]
      omega
    · exact nesting_list_lt (fun r _ => isValue_writeRole r) hodd hdepth hroles

theorem keeps_groupFields {nested : Reader Group} {depth : Nat}
    (h : Gives nested fun g => Fits (writeGroup g) (depth - 2)) :
    Keeps (groupFields nested depth) fun s =>
      (∀ e ∈ s.entities.getD [], Fits (writeEntity e) (depth - 2)) ∧
        ∀ g ∈ s.groups.getD [], Fits (writeGroup g) (depth - 2) := by
  refine List.forall_mem_cons.mpr ⟨gives_named (gives_true _) fun _ _ hs _ => hs, ?_⟩
  refine List.forall_mem_cons.mpr ⟨gives_named (gives_true _) fun _ _ hs _ => hs, ?_⟩
  refine List.forall_mem_cons.mpr ⟨gives_named (gives_list (fits_entity (depth - 2)))
    fun _ _ hs hentities => ⟨hentities.2, hs.2⟩, ?_⟩
  exact List.forall_mem_singleton.mpr
    (gives_named (gives_list h) fun _ _ hs hgroups => ⟨hs.1, hgroups.2⟩)

theorem optionalMember_nesting (key : String) (text : Option String) :
    ∀ m ∈ optionalMember key text, nesting m.value = 0 :=
  List.forall_mem_map.mpr fun s _ => nesting_writeString s

theorem fits_groupWith {nested : Reader Group} {depth : Nat}
    (h : Gives nested fun g => Fits (writeGroup g) (depth - 2)) :
    Gives (readGroupWith nested depth) fun g => Fits (writeGroup g) depth := by
  have hrecord : Gives (readRecord "EntitiesDescriptor" (groupFields nested depth)
      ⟨none, none, none, none⟩ depth) _ :=
    (keeps_groupFields h).record ⟨List.forall_mem_nil _, List.forall_mem_nil _⟩
  refine hrecord.finish fun s _ g _ hs hg => ?_
  obtain ⟨hdepth, hentities, hgroups⟩ := hs
  cases hg
  rw [writeGroup_eq]
  refine fits_object (groupMembers_values fun n _ => isValue_writeGroup n) hdepth fun hodd => ?_
  have hoptional (key : String) (text : Option String) :
      ∀ m ∈ optionalMember key text, nesting m.value < depth - 1 := by
    intro m hm
    rw [optionalMember_nesting key text m hm]
    omega
  refine List.forall_mem_append.mpr ⟨hoptional _ _, ?_⟩
  refine List.forall_mem_append.mpr ⟨hoptional _ _, ?_⟩
  exact List.forall_mem_cons.mpr
    ⟨nesting_list_lt (fun e _ => isValue_writeEntity e) hodd hdepth hentities,
      List.forall_mem_singleton.mpr
        (nesting_list_lt (fun n _ => isValue_writeGroup n) hodd hdepth hgroups)⟩

theorem fits_group (depth : Nat) : Gives (readGroup depth) fun g => Fits (writeGroup g) depth := by
  fun_induction readGroup depth with
  | case1 => exact fits_groupWith nofun
  | case2 => exact fits_groupWith nofun
  | case3 depth ih => exact fits_groupWith ih

theorem fits_tree {depth : Nat} (hdepth : 0 < depth) (heven : depth % 2 = 0) :
    Gives (readTree depth) fun m => nesting (write m) < depth := by
  have hmember (m : Member) (hvalue : IsValue m.value) (h : Fits m.value (depth - 1)) :
      nesting (writeObject [m.text]) < depth := by
    have hlt := h (by omega)
    rw [m.nesting_object hvalue]
    omega
  refine gives_tagged (List.forall_mem_cons.mpr ⟨?_, List.forall_mem_singleton.mpr ?_⟩)
  · exact (fits_entity (depth - 1)).map fun e he =>
      hmember ⟨"entity", writeEntity e⟩ (isValue_writeEntity e) he
  · exact (fits_group (depth - 1)).map fun g hg =>
      hmember ⟨"group", writeGroup g⟩ (isValue_writeGroup g) hg

/-- A tree reads back as itself from its own document unless too many brackets stand inside one
another, for which it is refused, and what was read from any document always does. -/
theorem read_write :
    (∀ m, nesting (write m) < depthLimit → read (Text.utf8Encode (write m)) = .ok m) ∧
      (∀ m, depthLimit ≤ nesting (write m) →
        read (Text.utf8Encode (write m)) = .error .recursionLimit) ∧
      ∀ document m, read document = .ok m → read (Text.utf8Encode (write m)) = .ok m := by
  have hread (m : Metadata) := (reads_tree m depthLimit).document
  refine ⟨fun m hm => ?_, fun m hm => ?_, fun document m hm => ?_⟩
  · rw [read, hread, if_pos hm]
  · rw [read, hread, if_neg (Nat.not_lt.mpr hm)]
  · rw [read, hread, if_pos (gives_document (fits_tree (by decide) (by decide)) hm)]

/-- A document with a name whose characters are escaped, or beyond sixteen bits. -/
def sampleTree : Metadata :=
  .group (.mk (some "\"a\\\u0001\n𝄞") none
    [⟨"https://idp.example.org/é",
      [⟨.identityProvider, [⟨.signing, ["MII="]⟩, ⟨.encryption, []⟩]⟩]⟩]
    [.mk none (some "") [] []])

/-- Groups inside one another. -/
def nestedGroup : Nat → Group
  | 0 => .mk none none [] []
  | n + 1 => .mk none none [] [nestedGroup n]

theorem le_nesting_writeGroup_nested (n : Nat) :
    2 * n + 2 ≤ nesting (writeGroup (nestedGroup n)) := by
  induction n with
  | zero => decide +kernel
  | succ n ih =>
    refine Nat.le_of_not_lt fun hlt => ?_
    rw [writeGroup_eq, nesting_writeObject_lt_iff
      (groupMembers_values fun g _ => isValue_writeGroup g) (by omega)] at hlt
    have hgroups := hlt ⟨"groups", writeList ([nestedGroup n].map writeGroup)⟩
      (List.mem_cons_of_mem _ List.mem_cons_self)
    have hnested := (nesting_writeList_lt_iff (fun g _ => isValue_writeGroup g) (by omega)).mp
      hgroups (nestedGroup n) List.mem_cons_self
    omega

/-- The document of a group puts one bracket around it. -/
theorem le_nesting_write_nested (n : Nat) :
    2 * n + 3 ≤ nesting (write (.group (nestedGroup n))) := by
  have hgroup := le_nesting_writeGroup_nested n
  have hdocument : nesting (write (.group (nestedGroup n))) =
      1 + nesting (writeGroup (nestedGroup n)) :=
    Member.nesting_object ⟨"group", writeGroup (nestedGroup n)⟩ (isValue_writeGroup _)
  omega

theorem sample_read_write :
    (nesting (write sampleTree) < depthLimit ∧
        read (Text.utf8Encode (write sampleTree)) = .ok sampleTree) ∧
      (depthLimit ≤ nesting (write (.group (nestedGroup 63))) ∧
        read (Text.utf8Encode (write (.group (nestedGroup 63)))) = .error .recursionLimit) ∧
      ∃ m, read (Text.utf8Encode "\x7b\"group\":[null,\"a\"]\x7d".toList) = .ok m ∧
        write m = write (.group (.mk none (some "a") [] [])) ∧
        read (Text.utf8Encode (write m)) = .ok m := by
  have hfits : nesting (write sampleTree) < depthLimit := by decide +kernel
  have hdeep : depthLimit ≤ nesting (write (.group (nestedGroup 63))) :=
    Nat.le_of_succ_le (le_nesting_write_nested 63)
  have hlist : (read (Text.utf8Encode "\x7b\"group\":[null,\"a\"]\x7d".toList)).toOption.map
      write = some (write (.group (.mk none (some "a") [] []))) := by decide +kernel
  obtain ⟨m, hread, hwrite⟩ := exists_eq_ok hlist
  exact ⟨⟨hfits, read_write.1 _ hfits⟩, ⟨hdeep, read_write.2.1 _ hdeep⟩, m, hread, hwrite,
    read_write.2.2 _ _ hread⟩

end AnchoredMetadata.Metadata
