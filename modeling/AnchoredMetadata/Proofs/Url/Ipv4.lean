import AnchoredMetadata.Proofs.Text.Digits
import AnchoredMetadata.Url.Address
import Mathlib.Algebra.Group.Nat.Defs
import Mathlib.Data.List.Induction

/-!
# Addresses of version 4 read back

An address of version 4 is a number of 32 bits. Its four bytes are written as decimal numbers, which
no zero in front makes octal, so the address is read again.
-/

namespace AnchoredMetadata.Url

/-! ## Numbers -/

theorem digitsValue?_concat (base : Nat) (cs : List Char) (c : Char) :
    digitsValue? base (cs ++ [c]) = (Text.hexValue? c).bind fun d =>
      if d < base then (digitsValue? base cs).map (· * base + d) else none := by
  rw [digitsValue?, List.foldl_append]
  simp only [List.foldl_cons, List.foldl_nil]
  cases Text.hexValue? c with
  | none => rfl
  | some d =>
    simp only [Option.bind_eq_bind, Option.bind_some]
    split
    · rw [digitsValue?, Option.map_eq_bind]
      rfl
    · rfl

theorem digitsValue?_toDigits {base : Nat} (hlow : 1 < base) (hhigh : base ≤ 16) (n : Nat) :
    digitsValue? base (Nat.toDigits base n) = some n := by
  induction n using Nat.strongRecOn with
  | ind n ih =>
    rw [Nat.toDigits_eq_if hlow]
    split
    · next hsmall =>
      have hconcat := digitsValue?_concat base [] n.digitChar
      rw [Text.hexValue?_digitChar n (by omega), Option.bind_some, if_pos hsmall] at hconcat
      rw [List.nil_append] at hconcat
      rw [hconcat]
      simp [digitsValue?]
    · have hdigit := Nat.mod_lt n (by omega : base > 0)
      rw [digitsValue?_concat, Text.hexValue?_digitChar (n % base) (by omega), Option.bind_some,
        if_pos hdigit, ih (n / base) (Nat.div_lt_self (by omega) hlow), Option.map_some,
        Nat.div_add_mod' n base]

/-- Digits are worth less than one more digit would be. -/
theorem digitsValue?_lt {base n : Nat} {cs : List Char} (h : digitsValue? base cs = some n) :
    n < base ^ cs.length := by
  induction cs using List.reverseRecOn generalizing n with
  | nil =>
    cases h
    exact Nat.one_pos
  | append_singleton cs c ih =>
    rw [digitsValue?_concat] at h
    obtain ⟨d, -, h⟩ := Option.bind_eq_some_iff.mp h
    split at h
    · next hd =>
      obtain ⟨m, hm, rfl⟩ := Option.map_eq_some_iff.mp h
      have hle : (m + 1) * base ≤ base ^ cs.length * base := Nat.mul_le_mul_right base (ih hm)
      rw [List.length_append, List.length_singleton, Nat.pow_succ]
      rw [Nat.add_mul, Nat.one_mul] at hle
      omega
    · cases h

/-! ## Parts between dots -/

theorem labels_ne_nil (name : List Char) : labels name ≠ [] := by
  fun_cases labels name <;> exact List.cons_ne_nil _ _

theorem labels_append {part : List Char} (h : '.' ∉ part) {rest first : List Char}
    {others : List (List Char)} (hrest : labels rest = first :: others) :
    labels (part ++ rest) = (part ++ first) :: others := by
  induction part with
  | nil => exact hrest
  | cons c part ih =>
    rw [List.mem_cons, not_or] at h
    rw [List.cons_append, labels.eq_def]
    simp only [ih h.2]
    split
    · next heq => exact absurd rfl h.1
    · next heq => cases heq; rfl
    · next heq => cases heq

theorem labels_whole {part : List Char} (h : '.' ∉ part) : labels part = [part] := by
  have hpart := labels_append h (show labels [] = [[]] from rfl)
  rw [List.append_nil] at hpart
  exact hpart

theorem labels_part {part : List Char} (h : '.' ∉ part) (rest : List Char) :
    labels (part ++ '.' :: rest) = part :: labels rest := by
  have hpart := labels_append h (show labels ('.' :: rest) = [] :: labels rest from rfl)
  rw [List.append_nil] at hpart
  exact hpart

/-! ## Addresses -/

theorem ipv4Number?_of_head {c : Char} (hc : c ≠ '0') (rest : List Char) :
    ipv4Number? (c :: rest) = digitsValue? 10 (c :: rest) := by
  rw [ipv4Number?.eq_def]
  split
  · next heq => cases heq
  · next heq => exact absurd (List.cons.inj heq).1 hc
  · next heq => exact absurd (List.cons.inj heq).1 hc
  · next heq => exact absurd (List.cons.inj heq).1 hc
  · rfl

/-- Decimal numbers have no zero in front that would make them octal. -/
theorem ipv4Number?_toDigits (n : Nat) : ipv4Number? (Nat.toDigits 10 n) = some n := by
  rcases Nat.eq_zero_or_pos n with rfl | hn
  · decide
  · obtain ⟨d, rest, hd, hlt, heq⟩ := Text.exists_head_toDigits (show 1 < 10 by decide) hn
    have hzero : d.digitChar ≠ '0' := mt Nat.digitChar_eq_zero.mp (Nat.ne_of_gt hd)
    rw [heq, ipv4Number?_of_head hzero, ← heq, digitsValue?_toDigits (by decide) (by decide)]

theorem foldl_bytes_lt {bytes : List Nat} (h : ∀ b ∈ bytes, b ≤ 255) :
    bytes.foldl (fun n b => n * 256 + b) 0 < 256 ^ bytes.length := by
  induction bytes using List.reverseRecOn with
  | nil => exact Nat.one_pos
  | append_singleton bytes b ih =>
    rw [List.forall_mem_append, List.forall_mem_singleton] at h
    have hbytes := ih h.1
    have hb := h.2
    rw [List.foldl_append, List.length_append, List.length_singleton, Nat.pow_succ, List.foldl_cons,
      List.foldl_nil]
    omega

/-- The number of an address has 32 bits. -/
theorem ipv4OfNumbers?_lt {numbers : List Nat} {n : Nat} (h : ipv4OfNumbers? numbers = some n) :
    n < 2 ^ 32 := by
  obtain ⟨last, -, h⟩ := Option.bind_eq_some_iff.mp h
  generalize numbers.dropLast = bytes at h
  simp only at h
  split at h
  · cases h
  · next hbytes =>
    split at h
    · cases h
    · next hlast =>
      obtain rfl := Option.some.inj h
      simp only [Bool.or_eq_true, decide_eq_true_eq, List.any_eq_true, not_or, not_exists,
        not_and, Nat.not_lt] at hbytes
      have hfour : 256 ^ bytes.length * 256 ^ (4 - bytes.length) = 2 ^ 32 := by
        rw [← Nat.pow_add, Nat.add_sub_cancel' (Nat.le_succ_of_le hbytes.1)]
        rfl
      have hfront := Nat.mul_le_mul_right (256 ^ (4 - bytes.length)) (foldl_bytes_lt hbytes.2)
      rw [hfour, Nat.succ_eq_add_one, Nat.add_mul, Nat.one_mul] at hfront
      exact Nat.lt_of_lt_of_le (Nat.add_lt_add_left (Nat.lt_of_not_le hlast) _) hfront

theorem ipv4?_lt {name : List Char} {n : Nat} (h : ipv4? name = some n) : n < 2 ^ 32 := by
  obtain ⟨numbers, -, h⟩ := Option.bind_eq_some_iff.mp h
  exact ipv4OfNumbers?_lt h

/-- The four bytes of an address, the highest first. -/
def ipv4Bytes (n : Nat) : List Nat :=
  [n / 256 ^ 3 % 256, n / 256 ^ 2 % 256, n / 256 ^ 1 % 256, n / 256 ^ 0 % 256]

/-- A written address has its bytes for parts. -/
theorem addressParts_ipv4Text (n : Nat) :
    addressParts (ipv4Text n) = (ipv4Bytes n).map (Nat.toDigits 10) := by
  have hdot (m : Nat) : '.' ∉ Nat.toDigits 10 m := by
    intro hmem
    exact absurd (Nat.isDigit_of_mem_toDigits (by decide) (by decide) hmem) (by decide)
  have hlabels : labels (ipv4Text n) = (ipv4Bytes n).map (Nat.toDigits 10) := by
    simp only [ipv4Text, List.append_assoc, List.cons_append]
    rw [labels_part (hdot _), labels_part (hdot _), labels_part (hdot _), labels_whole (hdot _)]
    rfl
  have hlast : ((ipv4Bytes n).map (Nat.toDigits 10)).getLast? ≠ some [] := by
    intro heq
    exact Nat.toDigits_ne_nil (Option.some.inj heq)
  simp only [addressParts, hlabels, if_neg hlast]

theorem ipv4OfNumbers?_four {a b c d : Nat} (ha : a ≤ 255) (hb : b ≤ 255) (hc : c ≤ 255)
    (hd : d ≤ 255) : ipv4OfNumbers? [a, b, c, d] = some (((a * 256 + b) * 256 + c) * 256 + d) := by
  have hbytes : [a, b, c].any (255 < ·) = false := by
    simp only [List.any_cons, List.any_nil, Bool.or_false, Bool.or_eq_false_iff,
      decide_eq_false_iff_not]
    omega
  have hlast : ¬ Nat.pow 256 1 ≤ d := by
    change ¬ 256 ≤ d
    omega
  have hparts : ipv4OfNumbers? [a, b, c, d] =
      if decide (3 < 3) || [a, b, c].any (255 < ·) then none
      else if Nat.pow 256 1 ≤ d then none
      else some ((((0 * 256 + a) * 256 + b) * 256 + c) * Nat.pow 256 1 + d) := rfl
  rw [hparts, hbytes, if_neg hlast, Nat.zero_mul, Nat.zero_add]
  rfl

theorem ipv4?_text {n : Nat} (h : n < 2 ^ 32) : ipv4? (ipv4Text n) = some n := by
  have hnumbers : ((ipv4Bytes n).map (Nat.toDigits 10)).mapM ipv4Number? = some (ipv4Bytes n) := by
    simp only [ipv4Bytes, List.map_cons, List.map_nil, List.mapM_cons, List.mapM_nil,
      ipv4Number?_toDigits]
    rfl
  rw [ipv4?, addressParts_ipv4Text, hnumbers]
  refine (ipv4OfNumbers?_four ?_ ?_ ?_ ?_).trans (congrArg some ?_) <;> omega

theorem endsInNumber_ipv4Text (n : Nat) : endsInNumber (ipv4Text n) = true := by
  have hlast : ((ipv4Bytes n).map (Nat.toDigits 10)).getLast? =
      some (Nat.toDigits 10 (n / 256 ^ 0 % 256)) := rfl
  simp only [endsInNumber, addressParts_ipv4Text, hlast, ipv4Number?_toDigits, Option.isSome_some,
    Bool.or_true]

theorem ipv4Text_characters {n : Nat} {c : Char} (h : c ∈ ipv4Text n) :
    c = '.' ∨ ∃ d < 16, c = d.digitChar := by
  have hdigits {m : Nat} (hc : c ∈ Nat.toDigits 10 m) : c = '.' ∨ ∃ d < 16, c = d.digitChar := by
    obtain ⟨d, hd, rfl⟩ := Text.exists_digit_of_mem (by decide) hc
    exact Or.inr ⟨d, by omega, rfl⟩
  simp only [ipv4Text, List.mem_append, List.mem_cons] at h
  rcases h with ((h | h | h) | h | h) | h | h
  · exact hdigits h
  · exact Or.inl h
  · exact hdigits h
  · exact Or.inl h
  · exact hdigits h
  · exact Or.inl h
  · exact hdigits h

end AnchoredMetadata.Url
