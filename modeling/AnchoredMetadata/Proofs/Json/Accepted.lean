import AnchoredMetadata.Json.Record
import AnchoredMetadata.Proofs.Except

/-!
# What readers accept

Whatever a document looks like, a list holds only what the reader of its items gave, and a record
only what its fields kept. Either had a bracket left.
-/

namespace AnchoredMetadata.Json

/-- A reader only gives values with a property. -/
def Gives {α : Type} (value : Reader α) (P : α → Prop) : Prop :=
  ∀ ⦃bytes a rest⦄, value bytes = .ok (a, rest) → P a

theorem gives_true {α : Type} (value : Reader α) : Gives value fun _ => True :=
  fun _ _ _ _ => trivial

theorem Gives.map {α β : Type} {value : Reader α} {P : α → Prop} {Q : β → Prop} {f : α → β}
    (h : Gives value P) (hf : ∀ a, P a → Q (f a)) :
    Gives (fun bytes => (value bytes).map fun (a, rest) => (f a, rest)) Q := by
  intro bytes b rest hread
  obtain ⟨⟨a, rest'⟩, hvalue, heq⟩ := map_eq_ok hread
  cases heq
  exact hf a (h hvalue)

/-- What is made of a value without reading on. -/
theorem Gives.finish {α σ : Type} {value : Reader σ} {P : σ → Prop} {Q : α → Prop}
    (h : Gives value P) {make : σ × List UInt8 → Except Fault (α × List UInt8)}
    (hmake : ∀ s rest a rest', P s → make (s, rest) = .ok (a, rest') → Q a) :
    Gives (fun bytes => value bytes >>= make) Q := by
  intro bytes a rest hread
  obtain ⟨⟨s, rest'⟩, hvalue, hmade⟩ := bind_eq_ok hread
  exact hmake s rest' a rest (h hvalue) hmade

/-! ## Values of another kind -/

theorem mismatch_ne_ok {α : Type} (expected : String) (bytes : List UInt8) (a : α) :
    mismatch expected bytes ≠ .ok a := by
  intro h
  unfold mismatch at h
  split at h
  · cases h
  · simp only at h
    repeat' split at h
    -- a scalar is read before it is named in the report
    all_goals first
      | cases h
      | obtain ⟨_, -, h⟩ := bind_eq_ok h
        cases h

/-! ## Lists -/

theorem gives_items {α : Type} {item : Reader α} {P : α → Prop} (h : Gives item P) (fuel : Nat)
    (first : Bool) : Gives (readItems item fuel first) fun xs => ∀ x ∈ xs, P x := by
  induction fuel generalizing first with
  | zero => exact nofun
  | succ fuel ih =>
    intro bytes xs rest hread
    rw [readItems] at hread
    obtain ⟨⟨more, bytes⟩, -, hread⟩ := bind_eq_ok hread
    cases more with
    | false =>
      cases hread
      exact nofun
    | true =>
      obtain ⟨⟨x, bytes⟩, hitem, hread⟩ := bind_eq_ok hread
      obtain ⟨⟨xs, bytes⟩, hitems, hread⟩ := bind_eq_ok hread
      cases hread
      exact List.forall_mem_cons.mpr ⟨h hitem, ih false hitems⟩

theorem gives_list {α : Type} {item : Reader α} {P : α → Prop} {depth : Nat} (h : Gives item P) :
    Gives (readList depth item) fun xs => 1 < depth ∧ ∀ x ∈ xs, P x := by
  intro bytes xs rest hread
  rw [readList] at hread
  split at hread
  · split at hread
    · cases hread
    · next hdepth => exact ⟨Nat.lt_of_not_le hdepth, gives_items h _ _ hread⟩
  · exact absurd hread (mismatch_ne_ok _ _ _)

/-! ## Choices -/

theorem mem_of_choose {α : Type} {choices : List (String × α)} {name : String} {a : α}
    (h : choose choices name = .ok a) : (name, a) ∈ choices := by
  rw [choose] at h
  split at h
  · next hlookup =>
    cases h
    obtain ⟨before, after, heq, -⟩ := List.lookup_eq_some_iff.mp hlookup
    rw [heq]
    exact List.mem_append_right _ List.mem_cons_self
  · cases h

/-- An accepted choice has content that the reader under its name gave. -/
theorem gives_tagged {α : Type} {choices : List (String × Reader α)} {P : α → Prop} {depth : Nat}
    (h : ∀ c ∈ choices, Gives c.2 P) : Gives (readTagged choices depth) P := by
  intro bytes a rest hread
  rw [readTagged] at hread
  split at hread
  · cases hread
  · obtain ⟨⟨name, bytes⟩, -, hread⟩ := bind_eq_ok hread
    obtain ⟨content, -, hread⟩ := bind_eq_ok hread
    cases hread
  · split at hread
    · cases hread
    · obtain ⟨⟨name, bytes⟩, -, hread⟩ := bind_eq_ok hread
      obtain ⟨content, hchosen, hread⟩ := bind_eq_ok hread
      obtain ⟨bytes, -, hread⟩ := bind_eq_ok hread
      obtain ⟨⟨b, bytes⟩, hcontent, hread⟩ := bind_eq_ok hread
      have hb := h (name, content) (mem_of_choose hchosen) hcontent
      simp only at hread
      split at hread
      · cases hread
      · cases hread
        exact hb
      · cases hread
  · cases hread

theorem gives_document {α : Type} {value : Reader α} {P : α → Prop} (h : Gives value P)
    {document : List UInt8} {a : α} (hread : readDocument value document = .ok a) : P a := by
  rw [readDocument] at hread
  obtain ⟨⟨b, rest⟩, hvalue, hread⟩ := bind_eq_ok hread
  simp only at hread
  split at hread
  · cases hread
    exact h hvalue
  · cases hread

/-! ## Records -/

section
variable {σ : Type} {fields : List (Field σ)} {P : σ → Prop}

/-- Whatever a field keeps leaves a property of the record. -/
def Keeps (fields : List (Field σ)) (P : σ → Prop) : Prop :=
  ∀ f ∈ fields, Gives f.read fun store => ∀ s, P s → P (store s)

theorem gives_named {α : Type} {value : Reader α} {Q : α → Prop} (h : Gives value Q)
    {name : String} {required : Bool} {get : σ → Option α} {set : σ → α → σ}
    (hset : ∀ s a, P s → Q a → P (set s a)) :
    Gives (Field.named name required get set value).read fun store => ∀ s, P s → P (store s) :=
  h.map (Q := fun store : σ → σ => ∀ s, P s → P (store s))
    fun a ha s hs => hset s a hs ha

theorem Keeps.members (h : Keeps fields P) (fuel : Nat) (first : Bool) {s : σ} (hs : P s) :
    Gives (readMembers fields fuel first s) P := by
  induction fuel generalizing first s with
  | zero => exact nofun
  | succ fuel ih =>
    intro bytes t rest hread
    rw [readMembers] at hread
    obtain ⟨⟨more, bytes⟩, -, hread⟩ := bind_eq_ok hread
    cases more with
    | false =>
      cases hread
      exact hs
    | true =>
      obtain ⟨⟨key, bytes⟩, -, hread⟩ := bind_eq_ok hread
      simp only at hread
      split at hread
      · next f hfield =>
        have hf := h f (List.mem_of_find?_eq_some hfield)
        split at hread
        · cases hread
        · obtain ⟨bytes, -, hread⟩ := bind_eq_ok hread
          obtain ⟨⟨store, bytes⟩, hstore, hread⟩ := bind_eq_ok hread
          exact ih false (hf hstore s hs) hread
      · obtain ⟨bytes, -, hread⟩ := bind_eq_ok hread
        obtain ⟨bytes, -, hread⟩ := bind_eq_ok hread
        exact ih false hs hread

theorem Keeps.listed {title : String} {count : Nat} (h : Keeps fields P) (first : Bool) {s : σ}
    (hs : P s) : Gives (readFields title count fields first s) P := by
  induction fields generalizing first s with
  | nil =>
    intro bytes t rest hread
    rw [readFields] at hread
    obtain ⟨bytes, -, heq⟩ := map_eq_ok hread
    cases heq
    exact hs
  | cons f fields ih =>
    obtain ⟨hf, hfields⟩ := List.forall_mem_cons.mp h
    intro bytes t rest hread
    rw [readFields] at hread
    obtain ⟨⟨more, bytes⟩, -, hread⟩ := bind_eq_ok hread
    cases more with
    | true =>
      obtain ⟨⟨store, bytes⟩, hstore, hread⟩ := bind_eq_ok hread
      exact ih hfields false (hf hstore s hs) hread
    | false =>
      simp only [Bool.false_eq_true, if_false] at hread
      split at hread
      · cases hread
      · cases hread
        exact hs

/-- An accepted record has what its fields leave. -/
theorem Keeps.record {title : String} {init : σ} {depth : Nat} (h : Keeps fields P)
    (hinit : P init) : Gives (readRecord title fields init depth) fun s => 1 < depth ∧ P s := by
  intro bytes s rest hread
  rw [readRecord] at hread
  split at hread
  · split at hread
    · cases hread
    · next hdepth => exact ⟨Nat.lt_of_not_le hdepth, h.listed true hinit hread⟩
  · split at hread
    · cases hread
    · next hdepth =>
      obtain ⟨⟨t, bytes⟩, hmembers, hread⟩ := bind_eq_ok hread
      have ht := h.members _ true hinit hmembers
      simp only at hread
      split at hread
      · cases hread
      · cases hread
        exact ⟨Nat.lt_of_not_le hdepth, ht⟩
  · exact absurd hread (mismatch_ne_ok _ _ _)

end

end AnchoredMetadata.Json
