import AnchoredMetadata.Text.Hex
import Mathlib.Algebra.Group.Nat.Defs

/-!
# Digits of numbers

What a number is written with, in a base up to sixteen.
-/

namespace AnchoredMetadata.Text

/-- A digit of a number in some base up to sixteen. -/
theorem exists_digit_of_mem {base n : Nat} {c : Char} (hlow : 1 < base)
    (h : c ∈ Nat.toDigits base n) : ∃ d < base, c = d.digitChar := by
  induction n using Nat.strongRecOn with
  | ind n ih =>
    rw [Nat.toDigits_eq_if hlow] at h
    split at h
    · next hsmall => exact ⟨n, hsmall, List.mem_singleton.mp h⟩
    · rcases List.mem_append.mp h with h | h
      · exact ih (n / base) (Nat.div_lt_self (by omega) hlow) h
      · exact ⟨n % base, Nat.mod_lt n (by omega), List.mem_singleton.mp h⟩

/-- A number does not start with a zero, unless it is one. -/
theorem exists_head_toDigits {base n : Nat} (hlow : 1 < base) (hn : 0 < n) :
    ∃ d rest, 0 < d ∧ d < base ∧ Nat.toDigits base n = d.digitChar :: rest := by
  induction n using Nat.strongRecOn with
  | ind n ih =>
    rw [Nat.toDigits_eq_if hlow]
    split
    · next hsmall => exact ⟨n, [], hn, hsmall, rfl⟩
    · next hlarge =>
      obtain ⟨d, rest, hd, hdlt, heq⟩ :=
        ih (n / base) (Nat.div_lt_self hn hlow) (Nat.div_pos (Nat.le_of_not_lt hlarge) (by omega))
      exact ⟨d, rest ++ [(n % base).digitChar], hd, hdlt, by rw [heq, List.cons_append]⟩

theorem isDigit_of_mem {n : Nat} {c : Char} (h : c ∈ Nat.toDigits 10 n) : c.isDigit = true :=
  Nat.isDigit_of_mem_toDigits (by decide) (by decide) h

theorem hexValue?_digitChar : ∀ d < 16, hexValue? d.digitChar = some d := by decide

end AnchoredMetadata.Text
