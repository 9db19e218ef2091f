import AnchoredMetadata.Certificate.Content
import AnchoredMetadata.Proofs.Certificate.ObjectIdentifier
import AnchoredMetadata.Proofs.Except
import Mathlib.Data.List.SplitBy

/-!
# Names told apart by their texts

Two names are the same when their relative names hold, in order, the same types and
values. Same names have the same text. The converse needs care: nothing in a text
is escaped, so a value with an equals sign in it can look like further attributes, and
the digits of other values look like a string. Between plain names, which hold nothing
of that kind, the text decides: in it every label ends at the next equals sign, and the
value before it ends in front of the last separator.
-/

namespace AnchoredMetadata.Certificate

/-! ## What names say -/

namespace Attribute

/-- The characters of the value, if it is a string that can be decoded. -/
def characters? (a : Attribute) : Option (List Char) :=
  if Name.textTags.contains a.valueTag then Text.utf8Decode? a.value
  else if a.valueTag = Name.wideTag then Name.ofUnits16? (Name.units16 a.value)
  else none

/-- The type of an attribute with the characters of its value; with the tag and the bytes of a
value that has no characters. -/
def meaning (a : Attribute) : ObjectIdentifier × (List Char ⊕ Nat × List UInt8) :=
  (a.type, match a.characters? with
    | some characters => .inl characters
    | none => .inr (a.valueTag, a.value))

/-- An attribute that can be read off its text: a type without longer forms and a string
without an equals sign. -/
structure IsPlain (a : Attribute) : Prop where
  type : a.type.IsShortest
  decoded : a.characters?.isSome = true
  value : '=' ∉ a.characters?.getD []

instance (a : Attribute) : Decidable a.IsPlain :=
  decidable_of_iff (a.type.IsShortest ∧ a.characters?.isSome = true ∧
    '=' ∉ a.characters?.getD []) ⟨fun ⟨t, d, v⟩ => ⟨t, d, v⟩, fun h => ⟨h.type, h.decoded, h.value⟩⟩

end Attribute

namespace Name

open ObjectIdentifier (intercalate_cons)

/-- The relative names hold the same types and values in the same order. -/
def Same (n m : Name) : Prop :=
  n.parts.map (List.map Attribute.meaning) = m.parts.map (List.map Attribute.meaning)

instance (n m : Name) : Decidable (n.Same m) := inferInstanceAs (Decidable (_ = _))

/-- All attributes are plain. -/
def IsPlain (n : Name) : Prop := ∀ part ∈ n.parts, ∀ a ∈ part, a.IsPlain

instance (n : Name) : Decidable n.IsPlain := inferInstanceAs (Decidable (∀ _ ∈ _, _))

/-- Lists that one function maps alike are mapped alike by another that follows it. -/
theorem map_eq_map_of {α β γ : Type} {f : α → β} {g : α → γ} {xs ys : List α}
    (h : xs.map f = ys.map f) (hfg : ∀ x ∈ xs, ∀ y ∈ ys, f x = f y → g x = g y) :
    xs.map g = ys.map g := by
  induction xs generalizing ys with
  | nil =>
    rw [List.map_eq_nil_iff.mp h.symm]
  | cons x xs ih =>
    cases ys with
    | nil => cases h
    | cons y ys =>
      obtain ⟨hhead, htail⟩ := List.cons.inj h
      rw [List.map_cons, List.map_cons, hfg x List.mem_cons_self y List.mem_cons_self hhead,
        ih htail fun a ha b hb =>
          hfg a (List.mem_cons_of_mem _ ha) b (List.mem_cons_of_mem _ hb)]

/-! ## Same names have the same text -/

/-- The text of a value follows from what it says. -/
theorem valueText?_eq (a : Attribute) :
    valueText? a =
      match a.characters? with
      | some characters => some (String.ofList characters)
      | none =>
        if textTags.contains a.valueTag || a.valueTag = wideTag then none
        else some (Text.hexUpper a.value) := by
  unfold valueText? Attribute.characters?
  by_cases htext : textTags.contains a.valueTag = true
  · rw [if_pos htext, if_pos htext, htext]
    cases Text.utf8Decode? a.value <;> rfl
  · rw [if_neg htext, if_neg htext, Bool.eq_false_iff.mpr htext]
    by_cases hwide : a.valueTag = wideTag
    · rw [if_pos hwide, if_pos hwide, decide_eq_true hwide]
      cases ofUnits16? (units16 a.value) <;> rfl
    · rw [if_neg hwide, if_neg hwide, decide_eq_false hwide]
      rfl

theorem attributeText?_congr {a b : Attribute} (h : a.meaning = b.meaning) :
    attributeText? a = attributeText? b := by
  obtain ⟨htype, hsaid⟩ := Prod.mk.inj h
  have hvalue : valueText? a = valueText? b := by
    rw [valueText?_eq, valueText?_eq]
    cases ha : a.characters? with
    | some characters =>
      cases hb : b.characters? with
      | some characters' =>
        rw [ha, hb] at hsaid
        rw [Sum.inl.inj hsaid]
      | none =>
        rw [ha, hb] at hsaid
        cases hsaid
    | none =>
      cases hb : b.characters? with
      | some characters' =>
        rw [ha, hb] at hsaid
        cases hsaid
      | none =>
        rw [ha, hb] at hsaid
        obtain ⟨htag, hbytes⟩ := Prod.mk.inj (Sum.inr.inj hsaid)
        dsimp only
        rw [htag, hbytes]
  rw [attributeText?, attributeText?, hvalue, htype]

/-- Same names have the same text, or both have none. -/
theorem Same.text?_eq {n m : Name} (h : n.Same m) : n.text? = m.text? := by
  have hattributes {p q : List Attribute}
      (hpq : p.map Attribute.meaning = q.map Attribute.meaning) :
      p.map attributeText? = q.map attributeText? :=
    map_eq_map_of hpq fun a _ b _ => attributeText?_congr
  have hparts : n.parts.map partText? = m.parts.map partText? := by
    refine map_eq_map_of h fun p _ q _ hpq => ?_
    have hp (r : List Attribute) : r.mapM attributeText? = (r.map attributeText?).mapM id := by
      rw [List.mapM_map]
      rfl
    rw [partText?, partText?, hp, hp, hattributes hpq]
  have htexts (k : Name) : k.parts.mapM partText? = (k.parts.map partText?).mapM id := by
    rw [List.mapM_map]
    rfl
  rw [text?, text?, htexts, htexts, hparts]

/-! ## The texts of plain names -/

theorem intercalate_map_ofList (separator : String) (pieces : List (List Char)) :
    separator.intercalate (pieces.map String.ofList) =
      String.ofList (separator.toList.intercalate pieces) := by
  rw [← String.toList_inj, String.toList_intercalate, String.toList_ofList, List.map_map]
  congr 1
  exact (List.map_congr_left fun piece _ => String.toList_ofList).trans (List.map_id _)

/-- The label of the type, an equals sign and the characters of the value. -/
def attributeCharacters (a : Attribute) : List Char :=
  a.type.label.toList ++ '=' :: a.characters?.getD []

/-- The characters of the attributes, joined. -/
def partCharacters (part : List Attribute) : List Char :=
  [' ', '+', ' '].intercalate (part.map attributeCharacters)

theorem attributeText?_of_plain {a : Attribute} (h : a.IsPlain) :
    attributeText? a = some (String.ofList (attributeCharacters a)) := by
  obtain ⟨characters, hcharacters⟩ := Option.isSome_iff_exists.mp h.decoded
  have hvalue : valueText? a = some (String.ofList characters) := by rw [valueText?_eq, hcharacters]
  rw [attributeText?, hvalue, Option.map_some, attributeCharacters, hcharacters, Option.getD_some,
    Option.some_inj, ← String.toList_inj, String.toList_append, String.toList_append,
    String.toList_ofList, String.toList_ofList, String.toList_ofList, List.append_assoc,
    List.singleton_append]

theorem partText?_of_plain {part : List Attribute} (h : ∀ a ∈ part, a.IsPlain) :
    partText? part = some (String.ofList (partCharacters part)) := by
  have hattributes : part.mapM attributeText? =
      some ((part.map attributeCharacters).map String.ofList) := by
    rw [List.map_map]
    exact mapM_eq_some_map fun a ha => attributeText?_of_plain (h a ha)
  have hseparator : " + ".toList = [' ', '+', ' '] := by decide
  rw [partText?, hattributes, Option.map_some, intercalate_map_ofList, hseparator, partCharacters]

/-- The characters of the relative names, joined. -/
def nameCharacters (n : Name) : List Char := [',', ' '].intercalate (n.parts.map partCharacters)

theorem text?_of_plain {n : Name} (h : n.IsPlain) :
    n.text? = some (String.ofList (nameCharacters n)) := by
  have hparts : n.parts.mapM partText? = some ((n.parts.map partCharacters).map String.ofList) := by
    rw [List.map_map]
    exact mapM_eq_some_map fun part hpart => partText?_of_plain (h part hpart)
  have hseparator : ", ".toList = [',', ' '] := by decide
  rw [text?, hparts, Option.map_some, intercalate_map_ofList, hseparator, nameCharacters]

/-! ## Attributes in a text -/

/-- An attribute as it stands in a text. -/
@[ext]
structure Shown where
  /-- Whether it is the first one of its relative name. -/
  leads : Bool
  /-- The label of its type. -/
  label : List Char
  /-- The characters of its value. -/
  value : List Char

namespace Shown

/-- What separates an attribute from the one before it, up to the last blank. -/
def mark (s : Shown) : List Char := if s.leads then [','] else [' ', '+']

/-- The separator and the attribute. -/
def characters (s : Shown) : List Char := s.mark ++ ' ' :: (s.label ++ '=' :: s.value)

/-- The label has no blank and no equals sign and the value no equals sign. -/
structure IsPlain (s : Shown) : Prop where
  label : '=' ∉ s.label ∧ ' ' ∉ s.label
  value : '=' ∉ s.value

end Shown

/-- The characters of attributes, each behind its separator. -/
def written (attributes : List Shown) : List Char := attributes.flatMap Shown.characters

/-- What stands before the first of two equal marks is the same if the mark is in neither. -/
theorem append_cons_inj {c : Char} {a b x y : List Char} (ha : c ∉ a) (hb : c ∉ b)
    (h : a ++ c :: x = b ++ c :: y) : a = b ∧ x = y := by
  induction a generalizing b with
  | nil =>
    cases b with
    | nil => exact ⟨rfl, List.tail_eq_of_cons_eq h⟩
    | cons d b => exact absurd (List.head_eq_of_cons_eq h ▸ List.mem_cons_self) hb
  | cons d a ih =>
    cases b with
    | nil => exact absurd (List.head_eq_of_cons_eq h ▸ List.mem_cons_self) ha
    | cons e b =>
      obtain ⟨rfl, htail⟩ := List.cons.inj h
      obtain ⟨rfl, hrest⟩ := ih (fun hc => ha (List.mem_cons_of_mem _ hc))
        (fun hc => hb (List.mem_cons_of_mem _ hc)) htail
      exact ⟨rfl, hrest⟩

/-- What stands behind the last of two equal marks is the same if the mark is in neither. -/
theorem append_cons_inj_right {c : Char} {a b x y : List Char} (hx : c ∉ x) (hy : c ∉ y)
    (h : a ++ c :: x = b ++ c :: y) : a = b ∧ x = y := by
  have hreverse : x.reverse ++ c :: a.reverse = y.reverse ++ c :: b.reverse := by
    simpa using congrArg List.reverse h
  obtain ⟨hxy, hab⟩ := append_cons_inj (by rwa [List.mem_reverse]) (by rwa [List.mem_reverse])
    hreverse
  exact ⟨List.reverse_inj.mp hab, List.reverse_inj.mp hxy⟩

/-- A value and the separator behind it are told apart by the last character. -/
theorem append_mark_inj {s t : Shown} {a b : List Char} (h : a ++ s.mark = b ++ t.mark) :
    a = b ∧ s.leads = t.leads := by
  have hlast : s.leads = t.leads := by
    have hmark (r : Shown) (c : List Char) :
        (c ++ r.mark).getLast? = some (if r.leads then ',' else '+') := by
      unfold Shown.mark
      cases r.leads <;> simp
    have heq := hmark s a
    rw [h, hmark t b, Option.some_inj] at heq
    revert heq
    cases s.leads <;> cases t.leads <;> decide
  refine ⟨?_, hlast⟩
  unfold Shown.mark at h
  rw [hlast] at h
  exact List.append_cancel_right h

theorem written_cons (s : Shown) (rest : List Shown) :
    written (s :: rest) = s.mark ++ ' ' :: s.label ++ '=' :: (s.value ++ written rest) := by
  simp [written, Shown.characters]

theorem equals_mem_written (s : Shown) (rest : List Shown) : '=' ∈ written (s :: rest) := by
  rw [written_cons]
  exact List.mem_append_right _ List.mem_cons_self

/-- No equals sign stands in a separator or a label. -/
theorem Shown.IsPlain.not_mem {s : Shown} (h : s.IsPlain) : '=' ∉ s.mark ++ ' ' :: s.label := by
  have hmark : '=' ∉ s.mark := by
    unfold Shown.mark
    cases s.leads <;> decide
  rw [List.mem_append, List.mem_cons, not_or, not_or]
  exact ⟨hmark, by decide, h.label.1⟩

/-- The end of a value and the attributes behind it can be read off their characters: up to the
next equals sign these are the end of the value, a separator and a label. -/
theorem append_written_inj {a b : List Char} {xs ys : List Shown} (ha : '=' ∉ a) (hb : '=' ∉ b)
    (hxs : ∀ s ∈ xs, s.IsPlain) (hys : ∀ s ∈ ys, s.IsPlain)
    (h : a ++ written xs = b ++ written ys) : a = b ∧ xs = ys := by
  induction xs generalizing a b ys with
  | nil =>
    cases ys with
    | nil => exact ⟨List.append_cancel_right h, rfl⟩
    | cons t ys =>
      -- One side ends with its value, and the other has an equals sign behind its value.
      refine absurd ?_ ha
      rw [← List.append_nil a]
      exact h ▸ List.mem_append_right _ (equals_mem_written t ys)
  | cons s xs ih =>
    cases ys with
    | nil =>
      refine absurd ?_ hb
      rw [← List.append_nil b]
      exact h ▸ List.mem_append_right _ (equals_mem_written s xs)
    | cons t ys =>
      obtain ⟨hs, hxs⟩ := List.forall_mem_cons.mp hxs
      obtain ⟨ht, hys⟩ := List.forall_mem_cons.mp hys
      have hfront {c : List Char} {r : Shown} (hc : '=' ∉ c) (hr : r.IsPlain) :
          '=' ∉ c ++ (r.mark ++ ' ' :: r.label) :=
        fun hin => (List.mem_append.mp hin).elim hc hr.not_mem
      rw [written_cons, written_cons, ← List.append_assoc a, ← List.append_assoc b] at h
      -- The next equals sign ends both labels. Before it the last blank ends both separators, and
      -- behind it the induction goes on with the values as what is left over.
      obtain ⟨hbefore, hbehind⟩ := append_cons_inj (hfront ha hs) (hfront hb ht) h
      rw [← List.append_assoc a, ← List.append_assoc b] at hbefore
      obtain ⟨hmarks, hlabel⟩ := append_cons_inj_right hs.label.2 ht.label.2 hbefore
      obtain ⟨hab, hleads⟩ := append_mark_inj hmarks
      obtain ⟨hvalue, hrest⟩ := ih hs.value ht.value hxs hys hbehind
      exact ⟨hab, List.cons_eq_cons.mpr ⟨Shown.ext hleads hlabel hvalue, hrest⟩⟩

/-! ## Plain names -/

/-- What an attribute shows. -/
def shown (leads : Bool) (a : Attribute) : Shown :=
  ⟨leads, a.type.label.toList, a.characters?.getD []⟩

/-- What the attributes of a relative name show. -/
def shownPart : List Attribute → List Shown
  | [] => []
  | a :: rest => shown true a :: rest.map (shown false)

/-- A relative name behind its separator is what its attributes show. -/
theorem written_shownPart {part : List Attribute} (h : part ≠ []) :
    written (shownPart part) = [',', ' '] ++ partCharacters part := by
  cases part with
  | nil => exact absurd rfl h
  | cons a rest =>
    have hrest : written (rest.map (shown false)) =
        (rest.map attributeCharacters).flatMap ([' ', '+', ' '] ++ ·) := by
      rw [written, List.flatMap_map, List.flatMap_map]
      rfl
    rw [partCharacters, List.map_cons, intercalate_cons, ← hrest, ← List.append_assoc]
    rfl

/-- A name behind a separator is what its attributes show. -/
theorem written_shownParts {n : Name} (h : [] ∉ n.parts) (hne : n.parts ≠ []) :
    written (n.parts.flatMap shownPart) = [',', ' '] ++ nameCharacters n := by
  have hparts : written (n.parts.flatMap shownPart) =
      (n.parts.map partCharacters).flatMap ([',', ' '] ++ ·) := by
    rw [written, List.flatMap_assoc, List.flatMap_map]
    exact List.flatMap_congr fun part hpart => written_shownPart (ne_of_mem_of_not_mem hpart h)
  rw [hparts, nameCharacters]
  cases hn : n.parts with
  | nil => exact absurd hn hne
  | cons part rest => rw [List.map_cons, intercalate_cons, List.flatMap_cons, List.append_assoc]

/-- In a relative name no attribute but the first leads it. -/
theorem isChain_shownPart (part : List Attribute) :
    (shownPart part).IsChain (fun _ s => (!s.leads) = true) := by
  cases part with
  | nil => exact List.isChain_nil
  | cons a rest =>
    have hlater : ∀ s ∈ rest.map (shown false), (!s.leads) = true := by
      intro s hs
      obtain ⟨b, _, rfl⟩ := List.mem_map.mp hs
      rfl
    apply List.Pairwise.isChain
    exact List.pairwise_cons.mpr
      ⟨hlater, List.pairwise_of_forall_mem_list fun _ _ s hs => hlater s hs⟩

theorem nameCharacters_eq_nil_iff {n : Name} (h : [] ∉ n.parts) :
    nameCharacters n = [] ↔ n.parts = [] := by
  refine ⟨fun hnil => by_contra fun hne => ?_, fun hnil => ?_⟩
  · obtain ⟨part, rest, hparts⟩ := List.exists_cons_of_ne_nil hne
    obtain ⟨a, later, rfl⟩ := List.exists_cons_of_ne_nil
      (ne_of_mem_of_not_mem (hparts ▸ List.mem_cons_self) h)
    have hwritten := written_shownParts h hne
    rw [hnil, hparts] at hwritten
    have hequals : '=' ∈ [',', ' '] ++ [] := hwritten ▸ equals_mem_written _ _
    exact absurd hequals (by decide)
  · rw [nameCharacters, hnil]
    rfl

/-- A relative name ends in front of the next attribute that leads one. -/
theorem splitBy_shownParts {parts : List (List Attribute)} (h : [] ∉ parts) :
    (parts.flatMap shownPart).splitBy (fun _ s => !s.leads) = parts.map shownPart := by
  induction parts with
  | nil => rfl
  | cons part rest ih =>
    rw [List.mem_cons, not_or] at h
    obtain ⟨a, later, hpart⟩ := List.exists_cons_of_ne_nil (Ne.symm h.1)
    have hne : shownPart part ≠ [] := by
      rw [hpart]
      exact List.cons_ne_nil _ _
    have hleads : ∀ s ∈ (rest.flatMap shownPart).head?, (!s.leads) = false := by
      cases rest with
      | nil => exact fun s hs => absurd hs (Option.not_mem_none s)
      | cons next more =>
        obtain ⟨b, others, rfl⟩ := List.exists_cons_of_ne_nil
          (ne_of_mem_of_not_mem List.mem_cons_self h.2)
        rintro s ⟨⟩
        rfl
    rw [List.flatMap_cons, List.splitBy_append fun _ _ s hs => hleads s hs,
      List.splitBy_of_isChain hne (isChain_shownPart part), ih h.2]
    rfl

theorem meaning_eq_of_shown {a b : Attribute} {leads : Bool} (ha : a.IsPlain) (hb : b.IsPlain)
    (h : shown leads a = shown leads b) : a.meaning = b.meaning := by
  obtain ⟨-, hlabel, hvalue⟩ := Shown.mk.inj h
  obtain ⟨x, hx⟩ := Option.isSome_iff_exists.mp ha.decoded
  obtain ⟨y, hy⟩ := Option.isSome_iff_exists.mp hb.decoded
  rw [hx, hy, Option.getD_some, Option.getD_some] at hvalue
  have htype : a.type = b.type :=
    ObjectIdentifier.label_inj ha.type hb.type (String.toList_inj.mp hlabel)
  rw [Attribute.meaning, Attribute.meaning, htype, hx, hy, hvalue]

/-- What plain attributes show tells what they mean. -/
theorem map_meaning_eq_of_shown {p q : List Attribute} (hp : ∀ a ∈ p, a.IsPlain)
    (hq : ∀ a ∈ q, a.IsPlain) (h : shownPart p = shownPart q) :
    p.map Attribute.meaning = q.map Attribute.meaning := by
  cases p with
  | nil =>
    cases q with
    | nil => rfl
    | cons b q => cases h
  | cons a p =>
    cases q with
    | nil => cases h
    | cons b q =>
      obtain ⟨ha, hp⟩ := List.forall_mem_cons.mp hp
      obtain ⟨hb, hq⟩ := List.forall_mem_cons.mp hq
      obtain ⟨hhead, htail⟩ := List.cons.inj h
      rw [List.map_cons, List.map_cons, meaning_eq_of_shown ha hb hhead,
        map_eq_map_of htail fun x hx y hy => meaning_eq_of_shown (hp x hx) (hq y hy)]

theorem isPlain_shown {a : Attribute} (h : a.IsPlain) (leads : Bool) : (shown leads a).IsPlain :=
  ⟨ObjectIdentifier.not_mem_label a.type, h.value⟩

theorem isPlain_of_mem_shownParts {n : Name} (h : n.IsPlain) :
    ∀ s ∈ n.parts.flatMap shownPart, s.IsPlain := by
  intro s hs
  obtain ⟨part, hpart, hs⟩ := List.mem_flatMap.mp hs
  cases part with
  | nil => exact absurd hs List.not_mem_nil
  | cons a rest =>
    obtain ⟨ha, hrest⟩ := List.forall_mem_cons.mp (h _ hpart)
    rcases List.mem_cons.mp hs with rfl | hs
    · exact isPlain_shown ha true
    · obtain ⟨b, hb, rfl⟩ := List.mem_map.mp hs
      exact isPlain_shown (hrest b hb) false

/-- Plain names whose relative names have the same characters are the same. -/
theorem same_of_written {n m : Name} (hn : n.IsPlain) (hm : m.IsPlain) (hne : [] ∉ n.parts)
    (hme : [] ∉ m.parts)
    (h : written (n.parts.flatMap shownPart) = written (m.parts.flatMap shownPart)) :
    n.Same m := by
  have hshown : n.parts.flatMap shownPart = m.parts.flatMap shownPart :=
    (append_written_inj List.not_mem_nil List.not_mem_nil (isPlain_of_mem_shownParts hn)
      (isPlain_of_mem_shownParts hm) (congrArg ([] ++ ·) h)).2
  have hparts : n.parts.map shownPart = m.parts.map shownPart := by
    rw [← splitBy_shownParts hne, hshown, splitBy_shownParts hme]
  exact map_eq_map_of hparts fun p hp q hq => map_meaning_eq_of_shown (hn p hp) (hm q hq)

/-! ## Names with and without a text -/

/-- Joined texts have the characters of the first of them. -/
theorem mem_of_joined {α : Type} {f : α → Option String} {x : α} {xs : List α}
    {separator t : String} {c : Char}
    (h : ((x :: xs).mapM f).map (separator.intercalate ·) = some t)
    (hx : ∀ s, f x = some s → c ∈ s.toList) : c ∈ t.toList := by
  obtain ⟨texts, htexts, rfl⟩ := Option.map_eq_some_iff.mp h
  rw [List.mapM_cons] at htexts
  obtain ⟨s, hs, hrest⟩ := Option.bind_eq_some_iff.mp htexts
  obtain ⟨more, -, hmore⟩ := Option.bind_eq_some_iff.mp hrest
  rw [← Option.some_inj.mp hmore, String.toList_intercalate, List.map_cons, intercalate_cons]
  exact List.mem_append_left _ (hx s hs)

theorem equals_mem_attributeText {a : Attribute} {s : String} (h : attributeText? a = some s) :
    '=' ∈ s.toList := by
  obtain ⟨value, -, rfl⟩ := Option.map_eq_some_iff.mp h
  rw [String.toList_append, String.toList_append]
  exact List.mem_append_left _ (List.mem_append_right _ (by decide))

/-- No name has a text that reads like the one for names without a text. -/
theorem text?_ne_unreadable {n : Name} (hne : [] ∉ n.parts) : n.text? ≠ some unreadable := by
  intro h
  unfold text? at h
  cases hparts : n.parts with
  | nil =>
    rw [hparts] at h
    exact absurd (Option.some_inj.mp h) (by decide)
  | cons part rest =>
    rw [hparts] at h hne
    obtain ⟨a, later, rfl⟩ := List.exists_cons_of_ne_nil
      (ne_of_mem_of_not_mem List.mem_cons_self hne)
    have hequals : '=' ∈ unreadable.toList :=
      mem_of_joined h fun s hs => mem_of_joined hs fun s hs => equals_mem_attributeText hs
    exact absurd hequals (by decide)

/-- Names are shown alike if they have the same text, or both have none. -/
theorem text_eq_iff {n m : Name} (hne : [] ∉ n.parts) (hme : [] ∉ m.parts) :
    n.text = m.text ↔ n.text? = m.text? := by
  unfold text
  constructor
  · intro h
    cases hn : n.text? with
    | none =>
      cases hm : m.text? with
      | none => rfl
      | some t =>
        rw [hn, hm, Option.getD_none, Option.getD_some] at h
        exact absurd (h ▸ hm) (text?_ne_unreadable hme)
    | some s =>
      cases hm : m.text? with
      | none =>
        rw [hn, hm, Option.getD_none, Option.getD_some] at h
        exact absurd (h ▸ hn) (text?_ne_unreadable hne)
      | some t =>
        rw [hn, hm, Option.getD_some, Option.getD_some] at h
        rw [h]
  · intro h
    rw [h]

/-- Plain names have the same text if and only if they are the same. -/
theorem text?_eq_iff_same {n m : Name} (hn : n.IsPlain) (hm : m.IsPlain) (hne : [] ∉ n.parts)
    (hme : [] ∉ m.parts) : n.text? = m.text? ↔ n.Same m := by
  refine ⟨fun h => ?_, Same.text?_eq⟩
  have hcharacters : nameCharacters n = nameCharacters m := by
    rw [text?_of_plain hn, text?_of_plain hm, Option.some_inj] at h
    exact String.ofList_inj.mp h
  have hnil : n.parts = [] ↔ m.parts = [] := by
    rw [← nameCharacters_eq_nil_iff hne, hcharacters, nameCharacters_eq_nil_iff hme]
  have hwritten : written (n.parts.flatMap shownPart) = written (m.parts.flatMap shownPart) := by
    by_cases hempty : n.parts = []
    · rw [hempty, hnil.mp hempty]
    · rw [written_shownParts hne hempty, written_shownParts hme (mt hnil.mpr hempty), hcharacters]
  exact same_of_written hn hm hne hme hwritten

/-! ## Names that are read -/

variable {α : Type} {bytes rest : List UInt8} {a : α}

/-- What is read inside of an element is read from its content. -/
theorem exists_content_of_readTagged {tag : Nat} {content : Der.Reader α}
    (h : (Der.readTagged tag bytes >>= fun (e, rest) =>
      content e.content >>= fun (a, _) => some (a, rest)) = some (a, rest)) :
    ∃ inner unread, content inner = some (a, unread) := by
  obtain ⟨⟨e, afterElement⟩, -, helement⟩ := Option.bind_eq_some_iff.mp h
  obtain ⟨⟨b, unread⟩, hcontent, heq⟩ := Option.bind_eq_some_iff.mp helement
  obtain ⟨rfl, -⟩ := Prod.mk.inj (Option.some_inj.mp heq)
  exact ⟨e.content, unread, hcontent⟩

theorem exists_content_of_readSequence {content : Der.Reader α}
    (h : Der.readSequence content bytes = some (a, rest)) :
    ∃ inner unread, content inner = some (a, unread) := exists_content_of_readTagged h

theorem exists_content_of_readSet {content : Der.Reader α}
    (h : Der.readSet content bytes = some (a, rest)) :
    ∃ inner unread, content inner = some (a, unread) := exists_content_of_readTagged h

/-- What holds of every value that the item reader gives holds of all values read in a row. -/
theorem forall_readMany {item : Der.Reader α} {P : α → Prop}
    (h : ∀ bytes a rest, item bytes = some (a, rest) → P a) (fuel : Nat) (bytes : List UInt8) :
    ∀ a ∈ (Der.readMany item fuel bytes).1, P a := by
  induction fuel generalizing bytes with
  | zero => exact fun a ha => absurd ha List.not_mem_nil
  | succ fuel ih =>
    rw [Der.readMany]
    cases hitem : item bytes with
    | none => exact fun a ha => absurd ha List.not_mem_nil
    | some found =>
      obtain ⟨a, rest⟩ := found
      exact List.forall_mem_cons.mpr ⟨h bytes a rest hitem, ih rest⟩

theorem ne_nil_of_readPart {part : List Attribute} (h : readPart bytes = some (part, rest)) :
    part ≠ [] := by
  obtain ⟨inner, unread, hcontent⟩ := exists_content_of_readSet h
  rintro rfl
  split at hcontent
  · cases hcontent
  · next hne _ =>
    cases hcontent
    exact hne rfl

/-- A name that is read has no empty relative name. -/
theorem not_mem_of_read {n : Name} (h : read bytes = some (n, rest)) : [] ∉ n.parts := by
  obtain ⟨inner, unread, hcontent⟩ := exists_content_of_readSequence h
  cases hcontent
  exact fun hin => forall_readMany (fun _ _ _ => ne_nil_of_readPart) _ _ _ hin rfl

end Name

/-- The names of a certificate that is read have no empty relative name. -/
theorem Content.not_mem_of_read {bytes rest : List UInt8} {content : Content}
    (h : Content.read bytes = some (content, rest)) :
    [] ∉ content.issuer.parts ∧ [] ∉ content.subject.parts := by
  obtain ⟨inner, unread, hcontent⟩ := Name.exists_content_of_readSequence h
  simp only [Option.bind_eq_bind, Option.bind_eq_some_iff, Prod.exists] at hcontent
  obtain ⟨signed, _, -, _, -, serial, _, -, _, _, -, issuer, _, hissuer, validity, _, -, subject, _,
    hsubject, key, _, -, _, -, _, -, extensions, -, algorithm, _, -, signature, _, -, heq⟩ :=
    hcontent
  obtain ⟨rfl, -⟩ := Prod.mk.inj (Option.some_inj.mp heq)
  exact ⟨Name.not_mem_of_read hissuer, Name.not_mem_of_read hsubject⟩

end AnchoredMetadata.Certificate
