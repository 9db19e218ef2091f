import AnchoredMetadata.Proofs.Json.Nesting

/-!
# Arrays and records read back

A reader that is told how many brackets are left takes a written value off whole when its brackets
are fewer, and reports the limit when they are not. Arrays and records hand this on from what they
hold. What a reader accepts had brackets left, and its parts were accepted by the readers of parts.
-/

namespace AnchoredMetadata.Json

open Text

/-- A reader takes a written value off the front of a text when fewer than `depth` of its brackets
stand inside one another; else it reports the limit. -/
def Reads {α : Type} (value : Reader α) (depth : Nat) (text : List Char) (a : α) : Prop :=
  ∀ rest, value (utf8Encode text ++ rest) =
    if nesting text < depth then .ok (a, rest) else .error .recursionLimit

theorem Reads.map {α β : Type} {value : Reader α} {depth : Nat} {text : List Char} {a : α}
    (h : Reads value depth text a) (f : α → β) :
    Reads (fun bytes => (value bytes).map fun (a, rest) => (f a, rest)) depth text (f a) := by
  intro rest
  simp only [h rest]
  split <;> rfl

/-- What is made of a value without reading on. -/
theorem Reads.finish {α σ : Type} {value : Reader σ} {depth : Nat} {text : List Char} {s : σ}
    {a : α}
    (h : Reads value depth text s) {make : σ × List UInt8 → Except Fault (α × List UInt8)}
    (hmake : ∀ rest, make (s, rest) = .ok (a, rest)) :
    Reads (fun bytes => value bytes >>= make) depth text a := by
  intro rest
  simp only [h rest]
  split
  · exact hmake rest
  · rfl

/-- A document that holds a written value and no more. -/
theorem Reads.document {α : Type} {value : Reader α} {depth : Nat} {text : List Char} {a : α}
    (h : Reads value depth text a) :
    readDocument value (utf8Encode text) =
      if nesting text < depth then .ok a else .error .recursionLimit := by
  have hvalue := h []
  rw [List.append_nil] at hvalue
  rw [readDocument, hvalue]
  split <;> rfl

theorem utf8Encode_cons (c : Char) (cs : List Char) :
    utf8Encode (c :: cs) = String.utf8EncodeChar c ++ utf8Encode cs := List.flatMap_cons

/-! ## Strings -/

theorem utf8Encode_writeString (s : String) (rest : List UInt8) :
    utf8Encode (writeString s) ++ rest =
      34 :: (utf8Encode (s.toList.flatMap writeChar) ++ 34 :: rest) := by
  rw [writeString, List.cons_append, utf8Encode_cons, utf8Encode_append, List.append_assoc,
    List.append_assoc]
  rfl

theorem readString_write (expected s : String) (rest : List UInt8) :
    readString expected (utf8Encode (writeString s) ++ rest) = .ok (s, rest) := by
  rw [utf8Encode_writeString]
  exact readStringRest_write s rest

theorem reads_string (expected : String) {depth : Nat} (h : 0 < depth) (s : String) :
    Reads (readString expected) depth (writeString s) s := by
  intro rest
  rw [readString_write, nesting_writeString, if_pos h]

/-! ## Items -/

/-- Items with commas between them, or one before each. -/
def joined (first : Bool) (items : List (List Char)) : List Char :=
  if first then separate items else items.flatMap fun item => ',' :: item

theorem joined_cons (first : Bool) (item : List Char) (items : List (List Char)) :
    joined first (item :: items) = (if first then [] else [',']) ++ item ++ joined false items := by
  cases first with
  | true => exact separate_cons item items
  | false => exact List.flatMap_cons

/-- Items that are not empty take at least a byte each. -/
theorem length_le_joined {items : List (List Char)} (h : ∀ item ∈ items, IsValue item)
    (first : Bool) : items.length ≤ (utf8Encode (joined first items)).length := by
  induction items generalizing first with
  | nil => exact Nat.zero_le _
  | cons item items ih =>
    obtain ⟨hitem, hitems⟩ := List.forall_mem_cons.mp h
    obtain ⟨c, cs, rfl⟩ := List.exists_cons_of_ne_nil hitem.ne_nil
    have hrest := ih hitems false
    have hc := List.length_pos_iff.mpr (String.utf8EncodeChar_ne_nil (c := c))
    rw [joined_cons, utf8Encode_append, utf8Encode_append, utf8Encode_cons]
    simp only [List.length_append, List.length_cons]
    omega

/-- The items of brackets are fewer than the bytes up to the closing one. -/
theorem length_lt_joined {items : List (List Char)} (h : ∀ item ∈ items, IsValue item)
    (closing : UInt8) (rest : List UInt8) :
    items.length < (utf8Encode (joined true items) ++ closing :: rest).length + 1 := by
  have hle := length_le_joined h true
  rw [List.length_append]
  omega

/-- A value is found as an item. -/
theorem nextItem_value {text : List Char} (h : IsValue text) (first : Bool) (rest : List UInt8) :
    nextItem first (utf8Encode ((if first then [] else [',']) ++ text) ++ rest) =
      .ok (true, utf8Encode text ++ rest) := by
  obtain ⟨c, more, rfl, hc⟩ := h.starts
  simp only [List.mem_cons, List.not_mem_nil, or_false] at hc
  cases first <;> rcases hc with rfl | rfl | rfl <;> rfl

theorem readItems_written {α : Type} {item : Reader α} {depth : Nat} {write : α → List Char}
    {xs : List α} (h : ∀ x ∈ xs, IsValue (write x) ∧ Reads item depth (write x) x)
    {fuel : Nat} (hfuel : xs.length < fuel) (first : Bool) (rest : List UInt8) :
    readItems item fuel first (utf8Encode (joined first (xs.map write)) ++ 93 :: rest) =
      if ∀ x ∈ xs, nesting (write x) < depth then .ok (xs, rest) else .error .recursionLimit := by
  induction xs generalizing fuel first with
  | nil =>
    obtain ⟨fuel, rfl⟩ := Nat.exists_eq_succ_of_ne_zero (Nat.ne_zero_of_lt hfuel)
    cases first <;> rfl
  | cons x xs ih =>
    obtain ⟨fuel, rfl⟩ := Nat.exists_eq_succ_of_ne_zero (Nat.ne_zero_of_lt hfuel)
    obtain ⟨⟨hvalue, hreads⟩, hxs⟩ := List.forall_mem_cons.mp h
    have hitems := ih hxs (Nat.lt_of_succ_lt_succ hfuel) false
    rw [List.map_cons, joined_cons, utf8Encode_append, List.append_assoc, readItems,
      nextItem_value hvalue]
    simp only [bind, Except.bind, if_true, hreads _, List.forall_mem_cons]
    by_cases hx : nesting (write x) < depth
    · simp only [hx, hitems, if_true, true_and]
      by_cases hrest : ∀ y ∈ xs, nesting (write y) < depth
      · simp only [if_pos hrest]
        rfl
      · simp only [if_neg hrest]
    · simp only [hx, if_false, false_and]

/-- A written array reads back as its items. -/
theorem reads_list {α : Type} {item : Reader α} {depth : Nat} {write : α → List Char} {xs : List α}
    (hvalues : ∀ x ∈ xs, IsValue (write x))
    (h : 1 < depth → ∀ x ∈ xs, Reads item (depth - 1) (write x) x) :
    Reads (readList depth item) depth (writeList (xs.map write)) xs := by
  intro rest
  have hbytes : utf8Encode (writeList (xs.map write)) ++ rest =
      91 :: (utf8Encode (joined true (xs.map write)) ++ 93 :: rest) := by
    rw [writeList, List.cons_append, utf8Encode_cons, utf8Encode_append, List.append_assoc,
      List.append_assoc]
    rfl
  have hskip (bytes : List UInt8) : skipSpace (91 :: bytes) = 91 :: bytes := rfl
  rw [hbytes, readList, hskip]
  by_cases hdepth : depth ≤ 1
  · simp only [if_pos hdepth, (nests_list hvalues).nesting_eq]
    rw [if_neg (by omega)]
  · have hdeeper : 1 < depth := Nat.lt_of_not_le hdepth
    have hlength := length_lt_joined (List.forall_mem_map.mpr hvalues) 93 rest
    rw [List.length_map] at hlength
    simp only [if_neg hdepth, nesting_writeList_lt_iff hvalues hdeeper]
    exact readItems_written (fun x hx => ⟨hvalues x hx, h hdeeper x hx⟩) hlength true rest

/-! ## Members -/

theorem Member.utf8Encode_text (m : Member) (rest : List UInt8) :
    utf8Encode m.text ++ rest =
      utf8Encode (writeString m.key) ++ 58 :: (utf8Encode m.value ++ rest) := by
  rw [Member.text, writeMember, utf8Encode_append, utf8Encode_cons, List.append_assoc,
    List.append_assoc]
  rfl

/-- Members are read one after another into a record, each by a field that was not given yet. -/
inductive Fills {σ : Type} (fields : List (Field σ)) (depth : Nat) : σ → List Member → σ → Prop
  /-- No members change nothing. -/
  | nil (s : σ) : Fills fields depth s [] s
  /-- The first member is kept by its field, then the others are. -/
  | cons {s t : σ} {m : Member} {members : List Member} {f : Field σ} {store : σ → σ}
      (field : (fields.find? fun f => f.keys.contains m.key) = some f) (fresh : f.isGiven s = false)
      (reads : Reads f.read depth m.value store) (others : Fills fields depth (store s) members t) :
      Fills fields depth s (m :: members) t

theorem Fills.append {σ : Type} {fields : List (Field σ)} {depth : Nat} {s t u : σ}
    {before after : List Member} (hbefore : Fills fields depth s before t)
    (hafter : Fills fields depth t after u) : Fills fields depth s (before ++ after) u := by
  induction hbefore with
  | nil s => exact hafter
  | cons field fresh reads _ ih => exact .cons field fresh reads (ih hafter)

/-- A member is found by its key. -/
theorem nextKey_member (first : Bool) (m : Member) (rest : List UInt8) :
    nextKey first (utf8Encode ((if first then [] else [',']) ++ m.text) ++ rest) =
      .ok (true, utf8Encode (m.key.toList.flatMap writeChar) ++
        34 :: 58 :: (utf8Encode m.value ++ rest)) := by
  rw [utf8Encode_append, List.append_assoc, m.utf8Encode_text, utf8Encode_writeString]
  cases first <;> rfl

theorem readMembers_written {σ : Type} {fields : List (Field σ)} {depth : Nat} {s t : σ}
    {members : List Member} (h : Fills fields depth s members t) {fuel : Nat}
    (hfuel : members.length < fuel) (first : Bool) (rest : List UInt8) :
    readMembers fields fuel first s
        (utf8Encode (joined first (members.map Member.text)) ++ 125 :: rest) =
      if ∀ m ∈ members, nesting m.value < depth then .ok (t, rest) else .error .recursionLimit := by
  induction h generalizing fuel first with
  | nil s =>
    obtain ⟨fuel, rfl⟩ := Nat.exists_eq_succ_of_ne_zero (Nat.ne_zero_of_lt hfuel)
    cases first <;> rfl
  | @cons s t m members f store hfield hfresh hreads _ ih =>
    obtain ⟨fuel, rfl⟩ := Nat.exists_eq_succ_of_ne_zero (Nat.ne_zero_of_lt hfuel)
    have hmembers := ih (Nat.lt_of_succ_lt_succ hfuel) false
    have hcolon (bytes : List UInt8) : readColon (58 :: bytes) = .ok bytes := rfl
    rw [List.map_cons, joined_cons, utf8Encode_append, List.append_assoc, readMembers,
      nextKey_member]
    simp only [bind, Except.bind, if_true, readStringRest_write, hfield, hfresh, hcolon,
      Bool.false_eq_true, if_false, pure, Except.pure, hreads _, List.forall_mem_cons]
    by_cases hm : nesting m.value < depth
    · simp only [hm, hmembers, if_true, true_and]
    · simp only [hm, if_false, false_and]

/-- A written object reads back as the record that its members fill. -/
theorem reads_record {σ : Type} {fields : List (Field σ)} {init t : σ} {depth : Nat}
    {members : List Member} (title : String) (hvalues : ∀ m ∈ members, IsValue m.value)
    (h : 1 < depth → Fills fields (depth - 1) init members t)
    (hgiven : (fields.find? fun f => f.required && !f.isGiven t) = none) :
    Reads (readRecord title fields init depth) depth (writeObject (members.map Member.text)) t := by
  intro rest
  have hbytes : utf8Encode (writeObject (members.map Member.text)) ++ rest =
      123 :: (utf8Encode (joined true (members.map Member.text)) ++ 125 :: rest) := by
    rw [writeObject, List.cons_append, utf8Encode_cons, utf8Encode_append, List.append_assoc,
      List.append_assoc]
    rfl
  have hskip (bytes : List UInt8) : skipSpace (123 :: bytes) = 123 :: bytes := rfl
  rw [hbytes, readRecord, hskip]
  by_cases hdepth : depth ≤ 1
  · simp only [if_pos hdepth, (nests_object hvalues).nesting_eq]
    rw [if_neg (by omega)]
  · have hdeeper : 1 < depth := Nat.lt_of_not_le hdepth
    have hlength := length_lt_joined (isValue_members hvalues) 125 rest
    rw [List.length_map] at hlength
    simp only [if_neg hdepth, readMembers_written (h hdeeper) hlength,
      nesting_writeObject_lt_iff hvalues hdeeper]
    by_cases hall : ∀ m ∈ members, nesting m.value < depth - 1
    · simp only [if_pos hall, hgiven, bind, Except.bind]
      rfl
    · simp only [if_neg hall, bind, Except.bind]

/-! ## Fields and choices -/

theorem Reads.named {σ α : Type} {value : Reader α} {depth : Nat} {text : List Char} {a : α}
    (h : Reads value depth text a) (name : String) (required : Bool) (get : σ → Option α)
    (set : σ → α → σ) :
    Reads (Field.named name required get set value).read depth text fun s => set s a :=
  h.map fun a s => set s a

theorem reads_choice {α : Type} {choices : List (String × α)} {name : String} {a : α} {depth : Nat}
    (hname : choices.lookup name = some a) (hdepth : 0 < depth) :
    Reads (readChoice choices depth) depth (writeString name) a := by
  intro rest
  have hskip (bytes : List UInt8) : skipSpace (34 :: bytes) = 34 :: bytes := rfl
  have hchosen : choose choices name = .ok a := by rw [choose, hname]
  rw [nesting_writeString, if_pos hdepth, utf8Encode_writeString, readChoice, hskip]
  simp only [bind, Except.bind, readStringRest_write, hchosen]
  rfl

theorem reads_optional {α : Type} {value : Reader α} {depth : Nat} {text : List Char} {a : α}
    (hvalue : IsValue text) (h : Reads value depth text a) :
    Reads (readOptional value) depth text (some a) := by
  intro rest
  have hread : readOptional value (utf8Encode text ++ rest) =
      (value (utf8Encode text ++ rest)).map fun (a, rest) => (some a, rest) := by
    obtain ⟨c, more, rfl, hc⟩ := hvalue.starts
    simp only [List.mem_cons, List.not_mem_nil, or_false] at hc
    rcases hc with rfl | rfl | rfl <;> rfl
  rw [hread, h rest]
  split <;> rfl

/-- A choice with content is an object with one member. -/
theorem reads_tagged {α : Type} {choices : List (String × Reader α)} {content : Reader α} {a : α}
    {m : Member} {depth : Nat} (hkey : choices.lookup m.key = some content)
    (hvalue : IsValue m.value) (h : 1 < depth → Reads content (depth - 1) m.value a) :
    Reads (readTagged choices depth) depth (writeObject [m.text]) a := by
  intro rest
  have hbytes : utf8Encode (writeObject [m.text]) ++ rest =
      123 :: (utf8Encode (writeString m.key) ++ 58 :: (utf8Encode m.value ++ 125 :: rest)) := by
    rw [← m.utf8Encode_text, writeObject, separate, List.cons_append, utf8Encode_cons,
      utf8Encode_append, List.append_assoc, List.append_assoc]
    rfl
  have hskip (bytes : List UInt8) : skipSpace (123 :: bytes) = 123 :: bytes := rfl
  have hcolon (bytes : List UInt8) : readColon (58 :: bytes) = .ok bytes := rfl
  have hchosen : choose choices m.key = .ok content := by rw [choose, hkey]
  rw [hbytes, m.nesting_object hvalue, readTagged, hskip]
  by_cases hdepth : depth ≤ 1
  · simp only [if_pos hdepth]
    rw [if_neg (by omega)]
  · have hdeeper : 1 < depth := Nat.lt_of_not_le hdepth
    simp only [if_neg hdepth, bind, Except.bind, readString_write, hchosen, hcolon, h hdeeper _]
    by_cases hlevels : nesting m.value < depth - 1
    · rw [if_pos (by omega : 1 + nesting m.value < depth)]
      simp only [if_pos hlevels]
      rfl
    · rw [if_neg (by omega : ¬ 1 + nesting m.value < depth)]
      simp only [if_neg hlevels]

end AnchoredMetadata.Json
