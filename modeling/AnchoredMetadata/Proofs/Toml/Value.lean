import AnchoredMetadata.Proofs.Text.Digits
import AnchoredMetadata.Proofs.Toml.Text
import AnchoredMetadata.Toml.Statement
import AnchoredMetadata.Toml.Writer

/-!
# Values in TOML read back

A number at the end of a line is read as a number: its digits are no date and no time of day, because
these need another sign before the line ends. A list is read item by item, in each of the three forms
that it is written in.
-/

namespace AnchoredMetadata.Toml

/-! ## Digits at the end of a line -/

/-- Only digits stand before the next end of a line. -/
inductive DigitsToEnd : List Char → Prop where
  /-- The line ends. -/
  | line (rest : List Char) : DigitsToEnd ('\n' :: rest)
  /-- A digit comes. -/
  | digit {c : Char} {rest : List Char} (h : c.isDigit = true) (hrest : DigitsToEnd rest) :
      DigitsToEnd (c :: rest)

theorem DigitsToEnd.append {digits : List Char} (h : ∀ c ∈ digits, c.isDigit = true)
    (rest : List Char) : DigitsToEnd (digits ++ '\n' :: rest) := by
  induction digits with
  | nil => exact .line rest
  | cons c digits ih =>
    obtain ⟨hc, hdigits⟩ := List.forall_mem_cons.mp h
    exact .digit hc (ih hdigits)

theorem DigitsToEnd.of_digit {base : Nat} {c : Char} {rest : List Char} {n : Nat}
    (h : DigitsToEnd (c :: rest)) (hc : digit? base c = some n) : DigitsToEnd rest := by
  cases h with
  | line => cases hc
  | digit _ hrest => exact hrest

theorem DigitsToEnd.of_readTwoDigits {cs rest : List Char} {least most n : Nat} (h : DigitsToEnd cs)
    (hread : readTwoDigits least most cs = some (n, rest)) : DigitsToEnd rest := by
  match cs, h with
  | [_], _ => cases hread
  | a :: b :: more, h =>
    simp only [readTwoDigits, Option.bind_eq_bind, Option.bind_eq_some_iff] at hread
    obtain ⟨x, ha, y, hb, hread⟩ := hread
    have hmore : DigitsToEnd more := (h.of_digit ha).of_digit hb
    split at hread
    · cases hread
      exact hmore
    · cases hread

theorem DigitsToEnd.readChar_eq_none {cs : List Char} (h : DigitsToEnd cs) {e : Char}
    (hline : e ≠ '\n') (hdigit : e.isDigit = false) : readChar e cs = none := by
  cases h with
  | line => exact if_neg (Ne.symm hline)
  | digit hc => exact if_neg (ne_of_test hc hdigit)

theorem DigitsToEnd.readDate_eq_none {cs : List Char} (h : DigitsToEnd cs) :
    readDate cs = none := by
  simp only [readDate, Option.bind_eq_bind, Option.bind_eq_none_iff]
  rintro ⟨century, afterCentury⟩ hcentury ⟨year, afterYear⟩ hyear sign hsign
  have hrest := (h.of_readTwoDigits hcentury).of_readTwoDigits hyear
  rw [hrest.readChar_eq_none (by decide) (by decide)] at hsign
  cases hsign

theorem DigitsToEnd.readTime_eq_none {cs : List Char} (h : DigitsToEnd cs) :
    readTime cs = none := by
  simp only [readTime, Option.bind_eq_bind, Option.bind_eq_none_iff]
  rintro ⟨hour, rest⟩ hhour sign hsign
  rw [(h.of_readTwoDigits hhour).readChar_eq_none (by decide) (by decide)] at hsign
  cases hsign

theorem DigitsToEnd.readMoment_eq_none {cs : List Char} (h : DigitsToEnd cs) :
    readMoment cs = none := by
  rw [readMoment, h.readDate_eq_none, h.readTime_eq_none]

/-! ## Numbers -/

theorem digit?_of_isDigit {c : Char} (h : c.isDigit = true) :
    digit? 10 c = some (c.toNat - '0'.toNat) := by
  simp only [Char.isDigit, Bool.and_eq_true, decide_eq_true_eq, ge_iff_le] at h
  obtain ⟨hlow, hhigh⟩ := h
  have hlow : 48 ≤ c.toNat := hlow
  have hhigh : c.toNat ≤ 57 := hhigh
  have hvalue : Text.hexValue? c = some (c.toNat - 48) := by
    simp [Text.hexValue?, hlow, hhigh]
  rw [digit?, hvalue]
  exact if_pos (by omega)

theorem readDigits_append {digits : List Char} (h : ∀ c ∈ digits, c.isDigit = true) (n : Nat)
    (rest : List Char) :
    readDigits 10 n (digits ++ '\n' :: rest) = some (Nat.ofDigitChars 10 digits n, '\n' :: rest) := by
  induction digits generalizing n with
  | nil =>
    rw [List.nil_append, readDigits]
    · rfl
    all_goals simp
  | cons c digits ih =>
    obtain ⟨hc, hdigits⟩ := List.forall_mem_cons.mp h
    have hscore : c ≠ '_' := ne_of_test hc (by decide)
    rw [List.cons_append, readDigits, digit?_of_isDigit hc]
    · simp only [ih hdigits, Nat.ofDigitChars, List.foldl_cons, Nat.mul_comm]
    all_goals simp [hscore]

/-- The first digit of a number is no zero, unless the number has no other. -/
theorem exists_toDigits (n : Nat) : ∃ c rest, Nat.toDigits 10 n = c :: rest ∧ c.isDigit = true ∧
    (c = '0' → rest = []) := by
  rcases Nat.eq_zero_or_pos n with rfl | hn
  · exact ⟨'0', [], rfl, rfl, fun _ => rfl⟩
  · obtain ⟨d, rest, hd, hlt, hdigits⟩ := Text.exists_head_toDigits (by decide : 1 < 10) hn
    have hdigit : d.digitChar.isDigit = true :=
      Text.isDigit_of_mem (hdigits ▸ List.mem_cons_self)
    have hne : ∀ d < 10, 0 < d → d.digitChar ≠ '0' := by decide
    exact ⟨d.digitChar, rest, hdigits, hdigit, fun hzero => absurd hzero (hne d hlt hd)⟩

theorem readWhole_toDigits (n : Nat) (rest : List Char) :
    readWhole (Nat.toDigits 10 n ++ '\n' :: rest) = some (n, '\n' :: rest) := by
  obtain ⟨c, more, hdigits, hc, hzero⟩ := exists_toDigits n
  have hmore : ∀ d ∈ more, d.isDigit = true := fun d hd =>
    Text.isDigit_of_mem (hdigits ▸ List.mem_cons_of_mem c hd)
  have hvalue : Nat.ofDigitChars 10 (c :: more) 0 = n := hdigits ▸ Nat.ofDigitChars_ten_toDigits
  rw [hdigits]
  by_cases hfirst : c = '0'
  · obtain rfl := hzero hfirst
    subst hfirst
    obtain rfl : 0 = n := hvalue
    rfl
  · rw [List.cons_append, readWhole]
    · rw [readNatural, digit?_of_isDigit hc]
      simp only [readDigits_append hmore]
      rw [← hvalue]
      simp [Nat.ofDigitChars]
    · exact fun _ h => absurd (List.cons.inj h).1 hfirst

theorem readNumber_toDigits {n : Nat} (h : n < limit) (rest : List Char) :
    readNumber (Nat.toDigits 10 n ++ '\n' :: rest) = some (.whole n, '\n' :: rest) := by
  have hwhole := readWhole_toDigits n rest
  obtain ⟨c, more, hdigits, hc, hzero⟩ := exists_toDigits n
  have hminus : c ≠ '-' := ne_of_test hc (by decide)
  have hplus : c ≠ '+' := ne_of_test hc (by decide)
  have hi : c ≠ 'i' := ne_of_test hc (by decide)
  have hn : c ≠ 'n' := ne_of_test hc (by decide)
  rw [hdigits, List.cons_append] at hwhole ⊢
  rw [readNumber]
  · rw [readSign]
    · dsimp only
      split
      · next heq => exact absurd (List.cons.inj heq).1 hi
      · next heq => exact absurd (List.cons.inj heq).1 hn
      · simp [hwhole, readDecimalRest, ranged, h]
    all_goals simp [hminus, hplus]
  -- no letter for another base stands behind a zero, as the line ends there
  all_goals
    intro after hafter
    obtain ⟨rfl, hnext⟩ := List.cons.inj hafter
    simp [hzero rfl] at hnext

/-! ## Values without brackets -/

theorem readValue_eq_readScalar {c : Char} (hlist : c ≠ '[') (htable : c ≠ '\x7b') (depth : Nat)
    (rest : List Char) : readValue depth (c :: rest) = readScalar (c :: rest) := by
  cases depth with
  | zero => rfl
  | succ depth =>
    rw [readValue]
    · exact fun _ h => hlist (List.cons.inj h).1
    · exact fun _ h => htable (List.cons.inj h).1

theorem readValue_writeText (s : String) {rest : List Char} (hrest : Unquoted rest) (depth : Nat) :
    readValue depth (writeText s.toList ++ rest) = some (.text s, rest) := by
  have hread := readText_writeText s.toList hrest
  obtain ⟨q, more, hhead, rfl | rfl⟩ := exists_head_writeText s.toList
  all_goals
    rw [hhead, List.cons_append] at hread ⊢
    rw [readValue_eq_readScalar (by decide) (by decide), readScalar, hread]
    simp only [Option.map_some, String.ofList_toList]

theorem toList_toString_natCast (n : Nat) : (toString (n : Int)).toList = Nat.toDigits 10 n := by
  change (Nat.repr n).toList = _
  simp

theorem readValue_integer {n : Nat} (h : n < limit) (rest : List Char) (depth : Nat) :
    readValue depth ((toString (n : Int)).toList ++ '\n' :: rest) =
      some (.integer n, '\n' :: rest) := by
  have hnumber := readNumber_toDigits h rest
  have hend : DigitsToEnd (Nat.toDigits 10 n ++ '\n' :: rest) :=
    .append (fun _ => Text.isDigit_of_mem) rest
  have hmoment := hend.readMoment_eq_none
  obtain ⟨c, more, hdigits, hc, -⟩ := exists_toDigits n
  rw [toList_toString_natCast]
  rw [hdigits, List.cons_append] at hnumber hmoment ⊢
  rw [readValue_eq_readScalar (ne_of_test hc (by decide)) (ne_of_test hc (by decide)),
    readScalar, hmoment, hnumber]
  all_goals exact fun _ h => ne_of_test hc (by decide) (List.cons.inj h).1

/-! ## Lists -/

theorem skipLines_cons {c : Char} (h : c ∉ ['\n', '\r', ' ', '\t', '#']) (rest : List Char) :
    skipLines false (c :: rest) = c :: rest := by
  simp only [List.mem_cons, List.not_mem_nil, or_false, not_or] at h
  obtain ⟨hn, hr, hspace, htab, hcomment⟩ := h
  rw [skipLines]
  · simp [isSpace, hspace, htab, hcomment]
  all_goals simp_all

/-- An item on a line of its own. -/
def lineItem (s : String) : List Char := "\n    ".toList ++ writeText s.toList ++ [',']

section Items

variable {value : Reader Value} {fuel : Nat}

theorem readItems_lineStart (cs : List Char) :
    readItems value fuel ("\n    ".toList ++ cs) = readItems value fuel cs := by
  cases fuel with
  | zero => rfl
  | succ fuel => rfl

theorem readItems_last {c : Char} (hc : c ∉ ['\n', '\r', ' ', '\t', '#', ']'])
    {cs rest : List Char} {v : Value} (h : value (c :: cs) = some (v, ']' :: rest)) :
    readItems value (fuel + 1) (c :: cs) = some ([v], rest) := by
  simp only [List.mem_cons, List.not_mem_nil, or_false, not_or] at hc
  rw [readItems, skipLines_cons (by simp [hc])]
  split
  · next heq => exact absurd (List.cons.inj heq).1 hc.2.2.2.2.2
  · simp [h, skipLines_cons]

theorem readItems_next {c : Char} (hc : c ∉ ['\n', '\r', ' ', '\t', '#', ']'])
    {cs rest after : List Char} {v : Value} {vs : List Value}
    (h : value (c :: cs) = some (v, ',' :: rest))
    (hrest : readItems value fuel rest = some (vs, after)) :
    readItems value (fuel + 1) (c :: cs) = some (v :: vs, after) := by
  simp only [List.mem_cons, List.not_mem_nil, or_false, not_or] at hc
  rw [readItems, skipLines_cons (by simp [hc])]
  split
  · next heq => exact absurd (List.cons.inj heq).1 hc.2.2.2.2.2
  · simp [h, skipLines_cons, hrest]

end Items

theorem quote_not_mem {q : Char} (h : q = '"' ∨ q = '\'') :
    q ∉ ['\n', '\r', ' ', '\t', '#', ']'] := by
  rcases h with rfl | rfl <;> decide

theorem readItems_lineItems (items : List String) (rest : List Char) (depth : Nat) {fuel : Nat}
    (hfuel : items.length < fuel) :
    readItems (readValue depth) fuel (items.flatMap lineItem ++ '\n' :: ']' :: rest) =
      some (items.map .text, rest) := by
  induction items generalizing fuel with
  | nil =>
    obtain ⟨fuel, rfl⟩ := Nat.exists_eq_succ_of_ne_zero (Nat.ne_of_gt hfuel)
    rfl
  | cons s items ih =>
    obtain ⟨fuel, rfl⟩ := Nat.exists_eq_succ_of_ne_zero (Nat.ne_of_gt (Nat.zero_lt_of_lt hfuel))
    have hrest := ih (Nat.lt_of_succ_lt_succ hfuel)
    have hunquoted : Unquoted (',' :: (items.flatMap lineItem ++ '\n' :: ']' :: rest)) :=
      unquoted_cons (by decide) (by decide)
    have hvalue := readValue_writeText s hunquoted depth
    obtain ⟨q, more, hhead, hq⟩ := exists_head_writeText s.toList
    rw [List.flatMap_cons, lineItem]
    simp only [List.append_assoc, readItems_lineStart, List.singleton_append]
    rw [hhead, List.cons_append] at hvalue ⊢
    exact readItems_next (quote_not_mem hq) hvalue hrest

theorem length_le_flatMap_lineItem (items : List String) :
    items.length ≤ (items.flatMap lineItem).length := by
  induction items with
  | nil => exact Nat.le_refl _
  | cons s items ih =>
    rw [List.flatMap_cons, List.length_append, List.length_cons, Nat.add_comm]
    exact Nat.add_le_add (by simp [lineItem]) ih

theorem readValue_writeTexts (items : List String) (rest : List Char) (depth : Nat) :
    readValue (depth + 1) (writeTexts items ++ rest) =
      some (.array false (items.map .text), rest) := by
  match items with
  | [] => rfl
  | [s] =>
    have hunquoted : Unquoted (']' :: rest) := unquoted_cons (by decide) (by decide)
    have hvalue := readValue_writeText s hunquoted depth
    obtain ⟨q, more, hhead, hq⟩ := exists_head_writeText s.toList
    rw [hhead, List.cons_append] at hvalue
    simp only [writeTexts, hhead, List.cons_append, List.append_assoc, List.nil_append, readValue,
      readItems_last (quote_not_mem hq) hvalue]
    rfl
  | s :: t :: items =>
    have hlength := length_le_flatMap_lineItem (s :: t :: items)
    change readValue (depth + 1)
      ('[' :: (s :: t :: items).flatMap lineItem ++ ['\n', ']'] ++ rest) = _
    rw [List.append_assoc, List.cons_append, readValue]
    rw [show ['\n', ']'] ++ rest = '\n' :: ']' :: rest from rfl, readItems_lineItems]
    · rfl
    · rw [List.length_append]
      omega

/-! ## Content -/

/-- The value that is read for content. -/
def Content.value : Content → Value
  | .text s => .text s
  | .integer n => .integer n
  | .texts items => .array false (items.map .text)

/-- A number is one of those that documents can hold and none below zero. -/
def Content.IsCount : Content → Prop
  | .integer n => ∃ k < limit, n = (k : Nat)
  | _ => True

/-- Content is read back at the end of a line. -/
theorem readValue_writeContent {c : Content} (h : c.IsCount) (rest : List Char) (depth : Nat) :
    readValue (depth + 1) (writeContent c ++ '\n' :: rest) = some (c.value, '\n' :: rest) := by
  cases c with
  | text s =>
    have hunquoted : Unquoted ('\n' :: rest) := unquoted_cons (by decide) (by decide)
    exact readValue_writeText s hunquoted _
  | integer n =>
    obtain ⟨k, hk, rfl⟩ := h
    exact readValue_integer hk rest _
  | texts items => exact readValue_writeTexts items _ depth

end AnchoredMetadata.Toml
