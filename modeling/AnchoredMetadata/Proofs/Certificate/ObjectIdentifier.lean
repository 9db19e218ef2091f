import AnchoredMetadata.Certificate.ObjectIdentifier
import AnchoredMetadata.Proofs.Text.Digits
import Mathlib.Data.List.Nodup

/-!
# Identifiers told apart by their labels

An identifier in its shortest form is recovered from its arcs, its arcs from the
dotted text, and the text from the label: no two short names are the same, and none
looks like dotted arcs. Longer forms, with empty groups in front of an arc, share the
label of the shortest one.
-/

namespace AnchoredMetadata.Certificate.ObjectIdentifier

/-! ## Arcs -/

/-- Whether no arc starts with an empty group and the last arc ends; `begins` says whether an arc
begins with the first byte. -/
def areShortest : (begins : Bool) → List UInt8 → Bool
  | begins, [] => begins
  | begins, b :: rest => !(begins && b == 0x80) && areShortest (b < 0x80) rest

/-- An identifier has a first byte and, behind it, arcs in as few groups as possible. -/
def IsShortest (o : ObjectIdentifier) : Prop :=
  o.content ≠ [] ∧ areShortest true o.content.tail = true

instance (o : ObjectIdentifier) : Decidable o.IsShortest := inferInstanceAs (Decidable (_ ∧ _))

/-- A number in groups of seven bits that each announce another one; none for zero. -/
def openGroups (n : Nat) : List UInt8 :=
  if n = 0 then [] else openGroups (n / 128) ++ [UInt8.ofNat (n % 128 + 128)]

theorem openGroups_zero : openGroups 0 = [] := by rw [openGroups, if_pos rfl]

/-- An arc in groups of seven bits. -/
def arcGroups (n : Nat) : List UInt8 := openGroups (n / 128) ++ [UInt8.ofNat (n % 128)]

/-- The content that arcs are read from. -/
def contentOf : List Nat → List UInt8
  | [] => []
  | [_] => [0]
  | a :: b :: later => UInt8.ofNat (a * 40 + b) :: later.flatMap arcGroups

/-- From shortest groups numbers are read that have these groups. -/
theorem flatMap_arcGroups {n : Nat} {unfinished : Bool} {bytes : List UInt8}
    (hn : unfinished = true ↔ n ≠ 0) (h : areShortest (!unfinished) bytes = true) :
    (laterArcs n unfinished bytes).flatMap arcGroups = openGroups n ++ bytes := by
  induction bytes generalizing n unfinished with
  | nil =>
    cases unfinished with
    | false =>
      have hzero : n = 0 := by simpa using hn
      rw [hzero, openGroups_zero]
      rfl
    | true => cases h
  | cons b rest ih =>
    rw [areShortest, Bool.and_eq_true] at h
    obtain ⟨hfirst, hrest⟩ := h
    have hlt := b.toNat_lt
    have hdiv : (n * 128 + b.toNat % 128) / 128 = n := by omega
    rw [laterArcs]
    split
    · next hends =>
      have hbyte : b.toNat < 128 := UInt8.lt_iff_toNat_lt.mp hends
      have hmod : (n * 128 + b.toNat % 128) % 128 = b.toNat := by omega
      rw [decide_eq_true hends] at hrest
      have hlater : (laterArcs 0 false rest).flatMap arcGroups = openGroups 0 ++ rest :=
        ih (by decide) hrest
      rw [List.flatMap_cons, hlater, openGroups_zero, arcGroups, hmod, hdiv, UInt8.ofNat_toNat,
        List.nil_append, List.append_assoc, List.singleton_append]
    · next hgoes =>
      have hbyte : ¬ b.toNat < 128 := fun hlow => hgoes (UInt8.lt_iff_toNat_lt.mpr hlow)
      have hmod : (n * 128 + b.toNat % 128) % 128 + 128 = b.toNat := by omega
      have hne : n * 128 + b.toNat % 128 ≠ 0 := by
        intro hzero
        have hstart : unfinished = false := by
          rw [Bool.eq_false_iff, Ne, hn]
          omega
        have hempty : b = 0x80 := by
          apply UInt8.toNat_inj.mp
          change b.toNat = 128
          omega
        rw [hstart, hempty] at hfirst
        exact absurd hfirst (by decide)
      rw [decide_eq_false hgoes] at hrest
      have hlater : (laterArcs (n * 128 + b.toNat % 128) true rest).flatMap arcGroups =
          openGroups (n * 128 + b.toNat % 128) ++ rest :=
        ih (iff_of_true rfl hne) hrest
      rw [hlater, openGroups, if_neg hne, hmod, hdiv, UInt8.ofNat_toNat, List.append_assoc,
        List.singleton_append]

/-- The arcs of an identifier in its shortest form are read from its content only. -/
theorem contentOf_arcs {o : ObjectIdentifier} (h : o.IsShortest) :
    contentOf o.arcs = o.content := by
  obtain ⟨content⟩ := o
  obtain ⟨hne, hshortest⟩ := h
  unfold arcs
  dsimp only at hne hshortest ⊢
  split
  · exact absurd rfl hne
  · rfl
  · next b rest _ =>
    have hgroups : (laterArcs 0 false rest).flatMap arcGroups = openGroups 0 ++ rest :=
      flatMap_arcGroups (by decide) hshortest
    rw [contentOf, hgroups, openGroups_zero, Nat.div_add_mod', UInt8.ofNat_toNat, List.nil_append]

theorem arcs_ne_nil {o : ObjectIdentifier} (h : o.IsShortest) : o.arcs ≠ [] := by
  intro hnil
  have hcontent := contentOf_arcs h
  rw [hnil] at hcontent
  exact h.1 hcontent.symm

theorem arcs_inj {o p : ObjectIdentifier} (ho : o.IsShortest) (hp : p.IsShortest)
    (h : o.arcs = p.arcs) : o = p := by
  have hcontent : o.content = p.content := by rw [← contentOf_arcs ho, h, contentOf_arcs hp]
  cases o
  cases p
  exact congrArg mk hcontent

/-! ## Dotted text -/

theorem text_toList (o : ObjectIdentifier) :
    o.text.toList = ['.'].intercalate (o.arcs.map (Nat.toDigits 10)) := by
  rw [text, String.toList_intercalate, List.map_map]
  congr 2
  funext n
  exact Nat.toList_repr

theorem text_inj {o p : ObjectIdentifier} (ho : o.IsShortest) (hp : p.IsShortest)
    (h : o.text = p.text) : o = p := by
  have hsplit (q : ObjectIdentifier) (hq : q.IsShortest) :
      q.text.toList.splitOn '.' = q.arcs.map (Nat.toDigits 10) := by
    rw [text_toList, List.splitOn_intercalate]
    · intro digits hdigits hdot
      obtain ⟨n, _, rfl⟩ := List.mem_map.mp hdigits
      exact absurd (Text.isDigit_of_mem hdot) (by decide)
    · rw [Ne, List.map_eq_nil_iff]
      exact arcs_ne_nil hq
  have hdigits : o.arcs.map (Nat.toDigits 10) = p.arcs.map (Nat.toDigits 10) := by
    rw [← hsplit o ho, h, hsplit p hp]
  apply arcs_inj ho hp
  refine List.map_injective_iff.mpr ?_ hdigits
  intro m n hmn
  rw [← Nat.ofDigitChars_ten_toDigits (n := m), hmn, Nat.ofDigitChars_ten_toDigits]

/-! ## Labels -/

/-- No two short names are the same. -/
theorem nodup_shortNames : (shortNames.map Prod.snd).Nodup := by decide +kernel

/-- A short name looks unlike dotted arcs and unlike several attributes. -/
theorem shortNames_characters : ∀ e ∈ shortNames,
    '(' ∉ e.2.toList ∧ '=' ∉ e.2.toList ∧ ' ' ∉ e.2.toList := by decide +kernel

/-- A label is the short name for the dotted text, or has the dotted text in it. -/
theorem label_cases (o : ObjectIdentifier) :
    (o.text, o.label) ∈ shortNames ∨ o.label = "OID(" ++ o.text ++ ")" := by
  unfold label
  split
  · next name hname =>
    obtain ⟨before, after, heq, _⟩ := List.lookup_eq_some_iff.mp hname
    rw [heq]
    exact Or.inl (List.mem_append_right _ List.mem_cons_self)
  · exact Or.inr rfl

/-- A short name is no label with dotted arcs. -/
theorem not_mem_shortNames {o p : ObjectIdentifier} (ho : (o.text, o.label) ∈ shortNames)
    (hp : p.label = "OID(" ++ p.text ++ ")") : o.label ≠ p.label := by
  intro h
  apply (shortNames_characters _ ho).1
  rw [h, hp, String.toList_append, String.toList_append]
  exact List.mem_append_left _ (List.mem_append_left _ (by decide))

theorem label_inj {o p : ObjectIdentifier} (ho : o.IsShortest) (hp : p.IsShortest)
    (h : o.label = p.label) : o = p := by
  apply text_inj ho hp
  rcases label_cases o with hin | hdotted <;> rcases label_cases p with hin' | hdotted'
  · exact congrArg Prod.fst (List.inj_on_of_nodup_map nodup_shortNames hin hin' h)
  · exact absurd h (not_mem_shortNames hin hdotted')
  · exact absurd h.symm (not_mem_shortNames hin' hdotted)
  · rw [hdotted, hdotted'] at h
    exact (String.append_right_inj _).mp ((String.append_left_inj _).mp h)

/-- Joined pieces are the first one and the others, each behind the separator. -/
theorem intercalate_cons {α : Type} {sep x : List α} {xs : List (List α)} :
    sep.intercalate (x :: xs) = x ++ xs.flatMap (sep ++ ·) := by
  induction xs generalizing x with
  | nil => simp
  | cons y ys ih =>
    rw [List.intercalate_cons_cons, ih, List.flatMap_cons, List.append_assoc, List.append_assoc]

theorem mem_intercalate {sep : List Char} {c : Char} {pieces : List (List Char)}
    (h : c ∈ sep.intercalate pieces) : c ∈ sep ∨ ∃ piece ∈ pieces, c ∈ piece := by
  cases pieces with
  | nil => exact absurd h List.not_mem_nil
  | cons first rest =>
    rw [intercalate_cons, List.mem_append, List.mem_flatMap] at h
    rcases h with h | ⟨piece, hpiece, h⟩
    · exact Or.inr ⟨first, List.mem_cons_self, h⟩
    · exact (List.mem_append.mp h).imp_right
        fun h => ⟨piece, List.mem_cons_of_mem _ hpiece, h⟩

/-- No label has a blank or an equals sign in it. -/
theorem not_mem_label (o : ObjectIdentifier) : '=' ∉ o.label.toList ∧ ' ' ∉ o.label.toList := by
  rcases label_cases o with hin | hdotted
  · exact (shortNames_characters _ hin).2
  · have hdigits {c : Char} (h : c ∈ o.text.toList) : c = '.' ∨ c.isDigit = true := by
      rw [text_toList] at h
      rcases mem_intercalate h with hdot | ⟨digits, hin, hc⟩
      · exact Or.inl (List.mem_singleton.mp hdot)
      · obtain ⟨n, _, rfl⟩ := List.mem_map.mp hin
        exact Or.inr (Text.isDigit_of_mem hc)
    have hother {c : Char} (hc : c ∉ "OID(".toList ++ ")".toList)
        (hnot : ¬ (c = '.' ∨ c.isDigit = true)) : c ∉ o.label.toList := by
      rw [hdotted, String.toList_append, String.toList_append]
      intro h
      simp only [List.mem_append] at h hc
      rcases h with (h | h) | h
      · exact hc (Or.inl h)
      · exact hnot (hdigits h)
      · exact hc (Or.inr h)
    exact ⟨hother (by decide) (by decide), hother (by decide) (by decide)⟩

end AnchoredMetadata.Certificate.ObjectIdentifier
