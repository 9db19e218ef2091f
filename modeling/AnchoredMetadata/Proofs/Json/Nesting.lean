import AnchoredMetadata.Proofs.Json.Strings

/-!
# Nesting of brackets

How many brackets of a document stand inside one another at most, brackets in strings apart. A
written string has none, and an array or object has one more than what it holds.
-/

namespace AnchoredMetadata.Json

/-- The largest number of brackets that are open at once in the rest of a text, of which so many
are open already. -/
def deepest : (inString : Bool) → (opened : Nat) → List Char → Nat
  | _, opened, [] => opened
  | true, opened, '\\' :: _ :: rest => deepest true opened rest
  | true, opened, c :: rest => deepest (c ≠ '"') opened rest
  | false, opened, c :: rest =>
    if c = '"' then deepest true opened rest
    else if c = '[' || c = '\x7b' then deepest false (opened + 1) rest
    else if c = ']' || c = '\x7d' then max opened (deepest false (opened - 1) rest)
    else deepest false opened rest

/-- How many brackets of a text stand inside one another at most. -/
def nesting (text : List Char) : Nat := deepest false 0 text

example : nesting "[1, \x7b\"a[[[\": []\x7d, []]".toList = 3 := by decide

theorem le_deepest (inString : Bool) (opened : Nat) (text : List Char) :
    opened ≤ deepest inString opened text := by
  fun_induction deepest inString opened text <;> grind

/-- A character in a string that neither ends it nor escapes the next one is passed over. -/
theorem deepest_plain {c : Char} (hquote : c ≠ '"') (hslash : c ≠ '\\') (opened : Nat)
    (rest : List Char) : deepest true opened (c :: rest) = deepest true opened rest := by
  rw [deepest, decide_eq_true hquote]
  intro _ _ h
  exact absurd h hslash

theorem hexDigit_plain : ∀ n < 16, Text.hexDigit n ≠ '"' ∧ Text.hexDigit n ≠ '\\' := by
  decide

/-- The end of a string is where its quote stands, not an escaped one. -/
theorem deepest_writeChars (cs : List Char) (opened : Nat) (rest : List Char) :
    deepest true opened (cs.flatMap writeChar ++ '"' :: rest) = deepest false opened rest := by
  induction cs with
  | nil =>
    rw [List.flatMap_nil, List.nil_append, deepest]
    · rfl
    · intro _ _ h
      exact absurd h (by decide)
  | cons c cs ih =>
    rw [List.flatMap_cons, List.append_assoc]
    rcases writeChar_cases c with hshort | ⟨hcontrol, hwrite⟩ | ⟨hplain, hquote, hslash, hwrite⟩
    · obtain ⟨letter, b, x, hwrite, hbytes, hne, hx, hc⟩ := hshort
      rw [hwrite]
      exact ih
    · obtain ⟨hquote, hslash⟩ := hexDigit_plain (c.toNat / 16) (by omega)
      obtain ⟨hquote', hslash'⟩ := hexDigit_plain (c.toNat % 16) (by omega)
      rw [hwrite, codeText, List.cons_append, List.cons_append, deepest]
      simp only [List.cons_append, List.nil_append]
      rw [deepest_plain (by decide) (by decide), deepest_plain (by decide) (by decide),
        deepest_plain hquote hslash, deepest_plain hquote' hslash', ih]
    · rw [hwrite, List.singleton_append, deepest_plain hquote hslash, ih]

/-- A text stands for a value whose brackets are closed again, so many inside one another. -/
structure Nests (text : List Char) (n : Nat) : Prop where
  /-- It starts as a string, an array or an object does. -/
  starts : ∃ c rest, text = c :: rest ∧ c ∈ ['"', '[', '\x7b']
  /-- What follows is counted as if the text were not there. -/
  counts : ∀ opened rest,
    deepest false opened (text ++ rest) = max (opened + n) (deepest false opened rest)

theorem Nests.nesting_eq {text : List Char} {n : Nat} (h : Nests text n) : nesting text = n := by
  have hcounts := h.counts 0 []
  rw [List.append_nil, Nat.zero_add, deepest, Nat.max_zero] at hcounts
  exact hcounts

/-- A text stands for a value. -/
def IsValue (text : List Char) : Prop := Nests text (nesting text)

theorem Nests.isValue {text : List Char} {n : Nat} (h : Nests text n) : IsValue text := by
  rw [IsValue, h.nesting_eq]
  exact h

theorem IsValue.ne_nil {text : List Char} (h : IsValue text) : text ≠ [] := by
  obtain ⟨c, rest, rfl, -⟩ := h.starts
  exact List.cons_ne_nil c rest

theorem nests_string (s : String) : Nests (writeString s) 0 := by
  refine ⟨⟨'"', _, rfl, by decide⟩, fun opened rest => ?_⟩
  have hle := le_deepest false opened rest
  have hbody := deepest_writeChars s.toList opened rest
  simp only [writeString, List.cons_append, List.append_assoc, List.nil_append]
  rw [deepest, if_pos rfl, hbody, Nat.add_zero, Nat.max_eq_right hle]

theorem isValue_string (s : String) : IsValue (writeString s) := (nests_string s).isValue

@[simp] theorem nesting_writeString (s : String) : nesting (writeString s) = 0 :=
  (nests_string s).nesting_eq

/-- The largest of some numbers. -/
def most (ns : List Nat) : Nat := ns.foldr max 0

@[simp] theorem most_nil : most [] = 0 := rfl

@[simp] theorem most_cons (m : Nat) (ns : List Nat) : most (m :: ns) = max m (most ns) := rfl

theorem most_lt_iff {ns : List Nat} {n : Nat} : most ns < n ↔ 0 < n ∧ ∀ m ∈ ns, m < n := by
  induction ns with
  | nil => simp
  | cons m rest ih =>
    rw [most_cons, Nat.max_lt, ih, List.forall_mem_cons]
    exact and_left_comm

/-- A bracket takes one level, and what it holds has the others. -/
theorem brackets_lt_iff {ns : List Nat} {depth : Nat} (hdepth : 1 < depth) :
    1 + most ns < depth ↔ ∀ n ∈ ns, n < depth - 1 := by
  have hmost : most ns < depth - 1 ↔ 0 < depth - 1 ∧ ∀ n ∈ ns, n < depth - 1 := most_lt_iff
  have hpos : 0 < depth - 1 := by omega
  rw [and_iff_right hpos] at hmost
  rw [← hmost]
  omega

theorem separate_cons (item : List Char) (items : List (List Char)) :
    separate (item :: items) = item ++ items.flatMap fun other => ',' :: other := by
  induction items generalizing item with
  | nil => rw [separate, List.flatMap_nil, List.append_nil]
  | cons other rest ih =>
    rw [separate, ih, List.flatMap_cons, List.cons_append]
    exact List.cons_ne_nil other rest

/-- Values after commas, up to the bracket that is closed after them. -/
theorem deepest_items {closing : Char} (hclosing : closing = ']' ∨ closing = '\x7d')
    {items : List (List Char)} (h : ∀ item ∈ items, IsValue item) (opened : Nat)
    (rest : List Char) :
    deepest false (opened + 1) ((items.flatMap fun item => ',' :: item) ++ closing :: rest) =
      max (opened + 1 + most (items.map nesting)) (deepest false opened rest) := by
  induction items with
  | nil => rcases hclosing with rfl | rfl <;> rfl
  | cons item items ih =>
    obtain ⟨hitem, hitems⟩ := List.forall_mem_cons.mp h
    rw [List.flatMap_cons, List.cons_append, List.cons_append, List.append_assoc, deepest,
      if_neg (by decide), if_neg (by decide), if_neg (by decide), hitem.counts, ih hitems,
      List.map_cons, most_cons, ← Nat.max_assoc, Nat.add_max_add_left]

/-- Brackets around values count one more than the values. -/
theorem nests_brackets {opening closing : Char} (hopening : opening = '[' ∨ opening = '\x7b')
    (hclosing : closing = ']' ∨ closing = '\x7d') {items : List (List Char)}
    (h : ∀ item ∈ items, IsValue item) :
    Nests (opening :: separate items ++ [closing]) (1 + most (items.map nesting)) := by
  refine ⟨⟨opening, _, rfl, ?_⟩, fun opened rest => ?_⟩
  · rcases hopening with rfl | rfl <;> decide
  · have hopen (text : List Char) :
        deepest false opened (opening :: text) = deepest false (opened + 1) text := by
      rcases hopening with rfl | rfl <;> rfl
    rw [List.cons_append, List.cons_append, List.append_assoc, List.singleton_append, hopen]
    cases items with
    | nil => exact deepest_items hclosing (List.forall_mem_nil IsValue) opened rest
    | cons item items =>
      obtain ⟨hitem, hitems⟩ := List.forall_mem_cons.mp h
      rw [separate_cons, List.append_assoc, hitem.counts, deepest_items hclosing hitems opened rest,
        List.map_cons, most_cons, ← Nat.max_assoc, Nat.add_max_add_left, Nat.add_assoc]

section
variable {α : Type} {write : α → List Char} {xs : List α} (h : ∀ x ∈ xs, IsValue (write x))
include h

theorem nests_list :
    Nests (writeList (xs.map write)) (1 + most (xs.map fun x => nesting (write x))) := by
  have hnests := nests_brackets (Or.inl rfl) (Or.inl rfl) (List.forall_mem_map.mpr h)
  rw [List.map_map] at hnests
  exact hnests

theorem isValue_list : IsValue (writeList (xs.map write)) := (nests_list h).isValue

theorem nesting_writeList_lt_iff {depth : Nat} (hdepth : 1 < depth) :
    nesting (writeList (xs.map write)) < depth ↔ ∀ x ∈ xs, nesting (write x) < depth - 1 := by
  rw [(nests_list h).nesting_eq, brackets_lt_iff hdepth, List.forall_mem_map]

end

/-! ## Members of objects -/

/-- A written member of an object. -/
structure Member where
  /-- The key. -/
  key : String
  /-- The written value. -/
  value : List Char

/-- A member as an object holds it. -/
def Member.text (m : Member) : List Char := writeMember m.key m.value

theorem Member.nests (m : Member) (h : IsValue m.value) : Nests m.text (nesting m.value) := by
  refine ⟨⟨'"', _, rfl, by decide⟩, fun opened rest => ?_⟩
  have hle : opened ≤ deepest false opened (m.value ++ rest) := le_deepest false opened _
  have hkey := (nests_string m.key).counts opened (':' :: (m.value ++ rest))
  have hcolon : deepest false opened (':' :: (m.value ++ rest)) =
      deepest false opened (m.value ++ rest) := rfl
  rw [Member.text, writeMember, List.append_assoc, List.cons_append, hkey, hcolon, Nat.add_zero,
    Nat.max_eq_right hle, h.counts]

section
variable {members : List Member} (h : ∀ m ∈ members, IsValue m.value)
include h

theorem isValue_members : ∀ item ∈ members.map Member.text, IsValue item :=
  List.forall_mem_map.mpr fun m hm => (m.nests (h m hm)).isValue

theorem nests_object : Nests (writeObject (members.map Member.text))
    (1 + most (members.map fun m => nesting m.value)) := by
  have hnests := nests_brackets (Or.inr rfl) (Or.inr rfl) (isValue_members h)
  have hsizes : (members.map Member.text).map nesting = members.map fun m => nesting m.value := by
    rw [List.map_map]
    exact List.map_congr_left fun m hm => (m.nests (h m hm)).nesting_eq
  rw [hsizes] at hnests
  exact hnests

theorem isValue_object : IsValue (writeObject (members.map Member.text)) :=
  (nests_object h).isValue

theorem nesting_writeObject_lt_iff {depth : Nat} (hdepth : 1 < depth) :
    nesting (writeObject (members.map Member.text)) < depth ↔
      ∀ m ∈ members, nesting m.value < depth - 1 := by
  rw [(nests_object h).nesting_eq, brackets_lt_iff hdepth, List.forall_mem_map]

end

theorem Member.nesting_object (m : Member) (h : IsValue m.value) :
    nesting (writeObject [m.text]) = 1 + nesting m.value := by
  have hobject := (nests_object (List.forall_mem_singleton.mpr h)).nesting_eq
  rw [List.map_singleton, List.map_singleton, most_cons, most_nil, Nat.max_zero] at hobject
  exact hobject

end AnchoredMetadata.Json
