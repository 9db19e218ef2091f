import AnchoredMetadata.Proofs.Text.Utf8
import AnchoredMetadata.Url.Percent

/-!
# Text that is encoded already

What percent-encoding gives are characters that stand for themselves, and on such characters it does
nothing. It makes no characters but percent signs and digits.
-/

namespace AnchoredMetadata

theorem Text.isAlphanum_hexDigitUpper : ∀ n < 16, (hexDigitUpper n).isAlphanum = true := by decide

namespace Url

open Text

/-- A character stands for itself: it has a picture and is not reserved. -/
def IsPlain (reserved : List Char) (c : Char) : Prop :=
  0x20 ≤ c.toNat ∧ c.toNat < 0x7F ∧ c ∉ reserved

instance (reserved : List Char) (c : Char) : Decidable (IsPlain reserved c) :=
  inferInstanceAs (Decidable (_ ∧ _ ∧ _))

/-- The marks that encoded text is written with, besides letters and digits. -/
def encodingMarks : List Char := ['*', '-', '.', '_', '+', '%', '~']

/-- No character that encoded text is written with is reserved. -/
def KeepsEncoded (reserved : List Char) : Prop :=
  ∀ c ∈ reserved, c ∉ encodingMarks ∧ c.isAlphanum = false

instance (reserved : List Char) : Decidable (KeepsEncoded reserved) :=
  List.decidableBAll (fun c => c ∉ encodingMarks ∧ c.isAlphanum = false) reserved

theorem asciiChar_toNat {b : UInt8} (h : b.toNat < 128) : (asciiChar b).toNat = b.toNat := by
  have hvalid : b.toNat.isValidChar := Or.inl (by omega)
  rw [asciiChar, Char.ofNat, dif_pos hvalid]
  rfl

theorem isVisible_iff {b : UInt8} : isVisible b = true ↔ 0x20 ≤ b.toNat ∧ b.toNat < 0x7F := by
  rw [isVisible, Bool.and_eq_true, decide_eq_true_eq, decide_eq_true_eq, UInt8.le_iff_toNat_le,
    UInt8.lt_iff_toNat_lt]
  rfl

/-- An encoded text is a visible character of the text, a percent sign or a digit. -/
theorem percentEncode_cases {reserved cs : List Char} {c : Char}
    (h : c ∈ percentEncode reserved cs) :
    (c ∈ cs ∧ IsPlain reserved c) ∨ c = '%' ∨ ∃ n < 16, c = hexDigitUpper n := by
  obtain ⟨b, hb, hc⟩ := List.mem_flatMap.mp h
  have hlt := b.toNat_lt
  split at hc
  · next hplain =>
    rw [Bool.and_eq_true, isVisible_iff, Bool.not_eq_true', List.contains_eq_mem,
      decide_eq_false_iff_not] at hplain
    obtain ⟨⟨hlow, hhigh⟩, hfree⟩ := hplain
    obtain rfl := List.mem_singleton.mp hc
    have htoNat := asciiChar_toNat (b := b) (by omega)
    obtain ⟨d, hd, hbd⟩ := List.mem_flatMap.mp hb
    rcases mem_encodeChar hbd with ⟨_, hsame⟩ | ⟨_, hhigh'⟩
    · have hchar : asciiChar b = d := Char.toNat_inj.mp (htoNat.trans hsame)
      refine Or.inl ⟨hchar ▸ hd, ?_⟩
      rw [IsPlain, htoNat]
      exact ⟨hlow, hhigh, hfree⟩
    · omega
  · simp only [percentByte, List.mem_cons, List.not_mem_nil, or_false] at hc
    rcases hc with rfl | rfl | rfl
    · exact Or.inr (Or.inl rfl)
    · exact Or.inr (Or.inr ⟨b.toNat / 16, by omega, rfl⟩)
    · exact Or.inr (Or.inr ⟨b.toNat % 16, by omega, rfl⟩)

/-- Encoded text stands for itself. -/
theorem isPlain_of_encoded {reserved : List Char} (h : KeepsEncoded reserved) {c : Char}
    (hc : c.isAlphanum = true ∨ c ∈ encodingMarks) : IsPlain reserved c := by
  have hrange : 0x20 ≤ c.toNat ∧ c.toNat < 0x7F := by
    rcases hc with hletter | hmark
    · change (decide ('A'.val ≤ c.val ∧ c.val ≤ 'Z'.val) ||
        (decide ('a'.val ≤ c.val) && decide (c.val ≤ 'z'.val)) ||
        (decide ('0'.val ≤ c.val) && decide (c.val ≤ '9'.val))) = true at hletter
      simp only [Bool.or_eq_true, Bool.and_eq_true, decide_eq_true_eq, UInt32.le_iff_toNat_le,
        Char.reduceVal, UInt32.reduceToNat] at hletter
      change 0x20 ≤ c.val.toNat ∧ c.val.toNat < 0x7F
      omega
    · have hall : encodingMarks.all (fun c => 0x20 ≤ c.toNat && c.toNat < 0x7F) = true := by decide
      have hmark := List.all_eq_true.mp hall c hmark
      rw [Bool.and_eq_true, decide_eq_true_eq, decide_eq_true_eq] at hmark
      exact hmark
  refine ⟨hrange.1, hrange.2, fun hmem => ?_⟩
  obtain ⟨hmark, hletter⟩ := h c hmem
  rcases hc with hc | hc
  · rw [hletter] at hc
    exact Bool.false_ne_true hc
  · exact hmark hc

theorem isPlain_percentEncode {reserved : List Char} (h : KeepsEncoded reserved) (cs : List Char) :
    ∀ c ∈ percentEncode reserved cs, IsPlain reserved c := by
  intro c hc
  rcases percentEncode_cases hc with ⟨-, hplain⟩ | rfl | ⟨n, hn, rfl⟩
  · exact hplain
  · exact isPlain_of_encoded h (Or.inr (by decide))
  · exact isPlain_of_encoded h (Or.inl (isAlphanum_hexDigitUpper n hn))

theorem percentEncode_plain {reserved cs : List Char} (h : ∀ c ∈ cs, IsPlain reserved c) :
    percentEncode reserved cs = cs := by
  induction cs with
  | nil => rfl
  | cons c cs ih =>
    obtain ⟨⟨hlow, hhigh, hfree⟩, hcs⟩ := List.forall_mem_cons.mp h
    have hencode : String.utf8EncodeChar c = [UInt8.ofNat c.toNat] := by
      have hvalue : c.val.toNat = c.toNat := rfl
      simp only [String.utf8EncodeChar]
      rw [if_pos (by omega), hvalue]
    have hbyte : (UInt8.ofNat c.toNat).toNat = c.toNat := by
      rw [UInt8.toNat_ofNat']
      omega
    have hchar : asciiChar (UInt8.ofNat c.toNat) = c := by
      rw [asciiChar, hbyte, Char.ofNat_toNat]
    have hkept : (isVisible (UInt8.ofNat c.toNat) &&
        !reserved.contains (asciiChar (UInt8.ofNat c.toNat))) = true := by
      rw [hchar, Bool.and_eq_true, isVisible_iff, hbyte, Bool.not_eq_true', List.contains_eq_mem,
        decide_eq_false_iff_not]
      exact ⟨⟨hlow, hhigh⟩, hfree⟩
    rw [percentEncode, utf8Encode, List.flatMap_cons, List.flatMap_append, hencode,
      List.flatMap_singleton, if_pos hkept, hchar]
    exact congrArg (c :: ·) (ih hcs)

end Url

end AnchoredMetadata
