import AnchoredMetadata.Text.Utf8

/-!
# Text from its bytes

The bytes of a text are well-formed sequences, one for each character, and decoding them gives the
text back.
-/

namespace AnchoredMetadata.Text

/-! ## Bytes of sequences -/

theorem payload_continuation : ∀ n < 64,
    isContinuation (UInt8.ofNat (n + 128)) = true ∧ payload (UInt8.ofNat (n + 128)) = n := by
  decide +kernel

/-- A byte that leads two has five bits of payload. -/
theorem lead_two : ∀ n < 32, 2 ≤ n → (0x80 : UInt8) ≤ UInt8.ofNat (n + 192) ∧
    0xC2 ≤ UInt8.ofNat (n + 192) ∧ UInt8.ofNat (n + 192) ≤ 0xDF ∧
    (UInt8.ofNat (n + 192) &&& 0x1F).toNat = n := by
  decide +kernel

/-- A byte that leads three has four bits of payload. -/
theorem lead_three : ∀ n < 16, (0xDF : UInt8) < UInt8.ofNat (n + 224) ∧
    0xE0 ≤ UInt8.ofNat (n + 224) ∧ UInt8.ofNat (n + 224) ≤ 0xEF ∧
    (UInt8.ofNat (n + 224) &&& 0x0F).toNat = n := by
  decide +kernel

/-- A byte that leads four has three bits of payload, of which not all are used. -/
theorem lead_four : ∀ n < 5, (0xEF : UInt8) < UInt8.ofNat (n + 240) ∧
    0xF0 ≤ UInt8.ofNat (n + 240) ∧ UInt8.ofNat (n + 240) ≤ 0xF4 ∧
    (UInt8.ofNat (n + 240) &&& 0x07).toNat = n := by
  decide +kernel

/-! ## Sequences of a character -/

theorem toNat_lt (c : Char) : c.toNat < 0x110000 := by
  rcases c.valid with h | h
  · exact Nat.lt_trans h (by decide)
  · exact h.2

theorem scalar2_encode {c : Char} (hlow : 0x7F < c.toNat) (hhigh : c.toNat ≤ 0x7FF) :
    scalar2 (UInt8.ofNat (c.toNat / 64 % 32 + 192)) (UInt8.ofNat (c.toNat % 64 + 128)) =
      some c := by
  obtain ⟨_, hleast, hmost, hlead⟩ := lead_two (c.toNat / 64 % 32) (by omega) (by omega)
  obtain ⟨hnext, hpayload⟩ := payload_continuation (c.toNat % 64) (by omega)
  have hvalue : c.toNat / 64 % 32 * 64 + c.toNat % 64 = c.toNat := by omega
  rw [scalar2, decide_eq_true hleast, decide_eq_true hmost, hnext, hlead, hpayload, hvalue,
    Char.ofNat_toNat]
  rfl

/-- A byte above those that lead two leads no sequence of two. -/
theorem scalar2_eq_none {a : UInt8} (h : 0xDF < a) (b : UInt8) : scalar2 a b = none := by
  have hmost : ¬ a ≤ 0xDF := UInt8.not_le.mpr h
  rw [scalar2, decide_eq_false hmost, Bool.and_false, Bool.false_and]
  rfl

theorem scalar3_encode {c : Char} (hlow : 0x7FF < c.toNat) (hhigh : c.toNat ≤ 0xFFFF) :
    scalar3 (UInt8.ofNat (c.toNat / 4096 % 16 + 224)) (UInt8.ofNat (c.toNat / 64 % 64 + 128))
      (UInt8.ofNat (c.toNat % 64 + 128)) = some c := by
  obtain ⟨_, hleast, hmost, hlead⟩ := lead_three (c.toNat / 4096 % 16) (by omega)
  obtain ⟨hnext, hpayload⟩ := payload_continuation (c.toNat / 64 % 64) (by omega)
  obtain ⟨hlast, hrest⟩ := payload_continuation (c.toNat % 64) (by omega)
  have hvalue : c.toNat / 4096 % 16 * 4096 + c.toNat / 64 % 64 * 64 + c.toNat % 64 = c.toNat := by
    omega
  -- a character is no surrogate
  have hvalid : c.toNat < 0xD800 ∨ 0xDFFF < c.toNat := by
    rcases c.valid with h | h
    · exact Or.inl h
    · exact Or.inr h.1
  rw [scalar3, decide_eq_true hleast, decide_eq_true hmost, hnext, hlast, hlead, hpayload, hrest,
    hvalue]
  simp only [Bool.and_self, if_true]
  rw [if_neg, Char.ofNat_toNat]
  simp only [Bool.or_eq_true, Bool.and_eq_true, decide_eq_true_eq]
  omega

/-- A byte above those that lead three leads no sequence of three. -/
theorem scalar3_eq_none {a : UInt8} (h : 0xEF < a) (b d : UInt8) : scalar3 a b d = none := by
  have hmost : ¬ a ≤ 0xEF := UInt8.not_le.mpr h
  rw [scalar3, decide_eq_false hmost, Bool.and_false, Bool.false_and, Bool.false_and]
  rfl

theorem scalar4_encode {c : Char} (hlow : 0xFFFF < c.toNat) :
    scalar4 (UInt8.ofNat (c.toNat / 262144 % 8 + 240)) (UInt8.ofNat (c.toNat / 4096 % 64 + 128))
      (UInt8.ofNat (c.toNat / 64 % 64 + 128)) (UInt8.ofNat (c.toNat % 64 + 128)) = some c := by
  have hhigh : c.toNat < 0x110000 := toNat_lt c
  obtain ⟨_, hleast, hmost, hlead⟩ := lead_four (c.toNat / 262144 % 8) (by omega)
  obtain ⟨hnext, hpayload⟩ := payload_continuation (c.toNat / 4096 % 64) (by omega)
  obtain ⟨hthird, hmiddle⟩ := payload_continuation (c.toNat / 64 % 64) (by omega)
  obtain ⟨hlast, hrest⟩ := payload_continuation (c.toNat % 64) (by omega)
  have hvalue : c.toNat / 262144 % 8 * 262144 + c.toNat / 4096 % 64 * 4096 +
      c.toNat / 64 % 64 * 64 + c.toNat % 64 = c.toNat := by
    omega
  rw [scalar4, decide_eq_true hleast, decide_eq_true hmost, hnext, hthird, hlast, hlead, hpayload,
    hmiddle, hrest, hvalue]
  simp only [Bool.and_self, if_true]
  rw [if_neg, Char.ofNat_toNat]
  simp only [Bool.or_eq_true, decide_eq_true_eq]
  omega

/-! ## Decoding -/

theorem utf8Decode?_one {a : UInt8} (h : a < 0x80) (rest : List UInt8) :
    utf8Decode? (a :: rest) = (utf8Decode? rest).map (Char.ofNat a.toNat :: ·) := by
  rw [utf8Decode?.eq_def]
  exact if_pos h

theorem utf8Decode?_two {a b : UInt8} {c : Char} (h : 0x80 ≤ a) (hc : scalar2 a b = some c)
    (rest : List UInt8) :
    utf8Decode? (a :: b :: rest) = (utf8Decode? rest).map (c :: ·) := by
  rw [utf8Decode?.eq_def]
  simp only [if_neg (UInt8.not_lt.mpr h), hc]

theorem utf8Decode?_three {a b d : UInt8} {c : Char} (h : 0xDF < a)
    (hc : scalar3 a b d = some c) (rest : List UInt8) :
    utf8Decode? (a :: b :: d :: rest) = (utf8Decode? rest).map (c :: ·) := by
  have hlead : ¬ a < 0x80 := UInt8.not_lt.mpr (UInt8.le_trans (by decide) (UInt8.le_of_lt h))
  rw [utf8Decode?.eq_def]
  simp only [if_neg hlead, scalar2_eq_none h, hc]

theorem utf8Decode?_four {a b d e : UInt8} {c : Char} (h : 0xEF < a)
    (hc : scalar4 a b d e = some c) (rest : List UInt8) :
    utf8Decode? (a :: b :: d :: e :: rest) = (utf8Decode? rest).map (c :: ·) := by
  have habove : (0xDF : UInt8) < a := UInt8.lt_trans (by decide) h
  have hlead : ¬ a < 0x80 := UInt8.not_lt.mpr (UInt8.le_trans (by decide) (UInt8.le_of_lt h))
  rw [utf8Decode?.eq_def]
  simp only [if_neg hlead, scalar2_eq_none habove, scalar3_eq_none h, hc]

/-- The sequence of a character is decoded by itself, whatever follows it. -/
theorem utf8Decode?_encodeChar (c : Char) (rest : List UInt8) :
    utf8Decode? (String.utf8EncodeChar c ++ rest) = (utf8Decode? rest).map (c :: ·) := by
  rw [String.utf8EncodeChar]
  split
  · next hone =>
    have hle : c.toNat ≤ 127 := hone
    have hbyte : (UInt8.ofNat c.toNat).toNat = c.toNat := by
      rw [UInt8.toNat_ofNat']
      omega
    have hlt : UInt8.ofNat c.toNat < 0x80 := by
      rw [UInt8.lt_iff_toNat_lt, hbyte]
      exact Nat.lt_succ_of_le hle
    have hdecode := utf8Decode?_one hlt rest
    rw [hbyte, Char.ofNat_toNat] at hdecode
    exact hdecode
  · next hone =>
    have hlow : 0x7F < c.toNat := Nat.lt_of_not_le hone
    split
    · next htwo =>
      have hhigh : c.toNat ≤ 0x7FF := htwo
      exact utf8Decode?_two (lead_two (c.toNat / 64 % 32) (by omega) (by omega)).1
        (scalar2_encode hlow hhigh) rest
    · next htwo =>
      have hlow : 0x7FF < c.toNat := Nat.lt_of_not_le htwo
      split
      · next hthree =>
        exact utf8Decode?_three (lead_three (c.toNat / 4096 % 16) (by omega)).1
          (scalar3_encode hlow hthree) rest
      · next hthree =>
        have hlow : 0xFFFF < c.toNat := Nat.lt_of_not_le hthree
        have hhigh : c.toNat < 0x110000 := toNat_lt c
        have hvalue : c.val.toNat = c.toNat := rfl
        exact utf8Decode?_four (lead_four (c.toNat / 262144 % 8) (by omega)).1
          (scalar4_encode hlow) rest

/-- A byte of a character is the character itself in ASCII, and else has its highest bit set. -/
theorem mem_encodeChar {c : Char} {b : UInt8} (h : b ∈ String.utf8EncodeChar c) :
    c.toNat < 128 ∧ b.toNat = c.toNat ∨ 128 ≤ c.toNat ∧ 128 ≤ b.toNat := by
  have hvalue : c.val.toNat = c.toNat := rfl
  have hbound := toNat_lt c
  rw [String.utf8EncodeChar] at h
  split at h
  · obtain rfl := List.mem_singleton.mp h
    rw [UInt8.toNat_ofNat']
    omega
  · refine Or.inr ⟨by omega, ?_⟩
    split at h
    · simp only [List.mem_cons, List.not_mem_nil, or_false] at h
      rcases h with rfl | rfl <;> rw [UInt8.toNat_ofNat'] <;> omega
    · split at h
      · simp only [List.mem_cons, List.not_mem_nil, or_false] at h
        rcases h with rfl | rfl | rfl <;> rw [UInt8.toNat_ofNat'] <;> omega
      · simp only [List.mem_cons, List.not_mem_nil, or_false] at h
        rcases h with rfl | rfl | rfl | rfl <;> rw [UInt8.toNat_ofNat'] <;> omega

/-- Decoding the bytes of a text gives the text. -/
theorem utf8Decode?_utf8Encode (cs : List Char) : utf8Decode? (utf8Encode cs) = some cs := by
  induction cs with
  | nil => rfl
  | cons c rest ih =>
    rw [utf8Encode, List.flatMap_cons, utf8Decode?_encodeChar, ← utf8Encode, ih, Option.map_some]

/-- Different texts have different bytes. -/
theorem utf8Encode_inj {a b : List Char} : utf8Encode a = utf8Encode b ↔ a = b := by
  refine ⟨fun h => ?_, congrArg utf8Encode⟩
  have hread := utf8Decode?_utf8Encode a
  rw [h, utf8Decode?_utf8Encode] at hread
  exact (Option.some.inj hread).symm

/-! ## Encoding what was decoded -/

theorem forall_byte {P : UInt8 → Prop} (h : ∀ n < 256, P (UInt8.ofNat n)) (b : UInt8) : P b := by
  have hb := h b.toNat b.toNat_lt
  rwa [UInt8.ofNat_toNat] at hb

theorem toNat_ofNat {n : Nat} (h : n.isValidChar) : (Char.ofNat n).toNat = n := by
  rw [Char.ofNat, dif_pos h]
  rfl

theorem eq_of_isContinuation : ∀ b : UInt8, isContinuation b = true →
    b = UInt8.ofNat (payload b + 128) ∧ payload b < 64 :=
  forall_byte (by decide +kernel)

theorem eq_of_lead_two : ∀ a : UInt8, 0xC2 ≤ a → a ≤ 0xDF →
    a = UInt8.ofNat ((a &&& 0x1F).toNat + 192) ∧ 2 ≤ (a &&& 0x1F).toNat ∧
      (a &&& 0x1F).toNat < 32 :=
  forall_byte (by decide +kernel)

theorem eq_of_lead_three : ∀ a : UInt8, 0xE0 ≤ a → a ≤ 0xEF →
    a = UInt8.ofNat ((a &&& 0x0F).toNat + 224) ∧ (a &&& 0x0F).toNat < 16 :=
  forall_byte (by decide +kernel)

theorem eq_of_lead_four : ∀ a : UInt8, 0xF0 ≤ a → a ≤ 0xF4 →
    a = UInt8.ofNat ((a &&& 0x07).toNat + 240) ∧ (a &&& 0x07).toNat < 8 :=
  forall_byte (by decide +kernel)

theorem encodeChar_scalar1 {a : UInt8} (h : a < 0x80) :
    String.utf8EncodeChar (Char.ofNat a.toNat) = [a] := by
  have hlow : a.toNat < 128 := h
  have hvalue : (Char.ofNat a.toNat).val.toNat = a.toNat := toNat_ofNat (Or.inl (by omega))
  have hone : a.toNat ≤ 127 := by omega
  rw [String.utf8EncodeChar, hvalue]
  simp only [hone, if_true, UInt8.ofNat_toNat]

theorem encodeChar_scalar2 {a b : UInt8} {c : Char} (h : scalar2 a b = some c) :
    String.utf8EncodeChar c = [a, b] := by
  rw [scalar2] at h
  split at h
  case isFalse => cases h
  case isTrue hbytes =>
    simp only [Bool.and_eq_true, decide_eq_true_eq] at hbytes
    obtain ⟨⟨hleast, hmost⟩, hnext⟩ := hbytes
    obtain ⟨ha, hlow, hhigh⟩ := eq_of_lead_two a hleast hmost
    obtain ⟨hb, hpayload⟩ := eq_of_isContinuation b hnext
    generalize (a &&& 0x1F).toNat = m at *
    generalize payload b = p at *
    obtain rfl := (Option.some.inj h).symm
    have hvalue : (Char.ofNat (m * 64 + p)).val.toNat = m * 64 + p :=
      toNat_ofNat (Or.inl (by omega))
    have hone : ¬ m * 64 + p ≤ 127 := by omega
    have htwo : m * 64 + p ≤ 2047 := by omega
    have hlead : (m * 64 + p) / 64 % 32 = m := by omega
    have hlast : (m * 64 + p) % 64 = p := by omega
    rw [String.utf8EncodeChar, hvalue, ha, hb]
    simp only [hone, htwo, hlead, hlast, if_true, if_false]

theorem encodeChar_scalar3 {a b d : UInt8} {c : Char} (h : scalar3 a b d = some c) :
    String.utf8EncodeChar c = [a, b, d] := by
  rw [scalar3] at h
  split at h
  case isFalse => cases h
  case isTrue hbytes =>
    simp only [Bool.and_eq_true, decide_eq_true_eq] at hbytes
    obtain ⟨⟨⟨hleast, hmost⟩, hnext⟩, hafter⟩ := hbytes
    obtain ⟨ha, hhigh⟩ := eq_of_lead_three a hleast hmost
    obtain ⟨hb, hpayload⟩ := eq_of_isContinuation b hnext
    obtain ⟨hd, hrest⟩ := eq_of_isContinuation d hafter
    generalize (a &&& 0x0F).toNat = m at *
    generalize payload b = p at *
    generalize payload d = q at *
    dsimp only at h
    split at h
    case isTrue => cases h
    case isFalse hrange =>
      simp only [Bool.or_eq_true, Bool.and_eq_true, decide_eq_true_eq, not_or, not_and,
        Nat.not_lt, Nat.not_le] at hrange
      obtain rfl := (Option.some.inj h).symm
      have hvalid : (m * 4096 + p * 64 + q).isValidChar := by
        rcases Nat.lt_or_ge (m * 4096 + p * 64 + q) 0xD800 with hlow | hlow
        · exact Or.inl hlow
        · exact Or.inr ⟨hrange.2 hlow, by omega⟩
      have hvalue : (Char.ofNat (m * 4096 + p * 64 + q)).val.toNat = m * 4096 + p * 64 + q :=
        toNat_ofNat hvalid
      have hone : ¬ m * 4096 + p * 64 + q ≤ 127 := by omega
      have htwo : ¬ m * 4096 + p * 64 + q ≤ 2047 := by omega
      have hthree : m * 4096 + p * 64 + q ≤ 65535 := by omega
      have hlead : (m * 4096 + p * 64 + q) / 4096 % 16 = m := by omega
      have hmiddle : (m * 4096 + p * 64 + q) / 64 % 64 = p := by omega
      have hlast : (m * 4096 + p * 64 + q) % 64 = q := by omega
      rw [String.utf8EncodeChar, hvalue, ha, hb, hd]
      simp only [hone, htwo, hthree, hlead, hmiddle, hlast, if_true, if_false]

theorem encodeChar_scalar4 {a b d e : UInt8} {c : Char} (h : scalar4 a b d e = some c) :
    String.utf8EncodeChar c = [a, b, d, e] := by
  rw [scalar4] at h
  split at h
  case isFalse => cases h
  case isTrue hbytes =>
    simp only [Bool.and_eq_true, decide_eq_true_eq] at hbytes
    obtain ⟨⟨⟨⟨hleast, hmost⟩, hnext⟩, hthird⟩, hafter⟩ := hbytes
    obtain ⟨ha, hhigh⟩ := eq_of_lead_four a hleast hmost
    obtain ⟨hb, hpayload⟩ := eq_of_isContinuation b hnext
    obtain ⟨hd, hsecond⟩ := eq_of_isContinuation d hthird
    obtain ⟨he, hrest⟩ := eq_of_isContinuation e hafter
    generalize (a &&& 0x07).toNat = m at *
    generalize payload b = p at *
    generalize payload d = q at *
    generalize payload e = r at *
    dsimp only at h
    split at h
    case isTrue => cases h
    case isFalse hrange =>
      simp only [Bool.or_eq_true, decide_eq_true_eq, not_or, Nat.not_lt] at hrange
      obtain rfl := (Option.some.inj h).symm
      have hvalue : (Char.ofNat (m * 262144 + p * 4096 + q * 64 + r)).val.toNat =
          m * 262144 + p * 4096 + q * 64 + r :=
        toNat_ofNat (Or.inr ⟨by omega, by omega⟩)
      have hone : ¬ m * 262144 + p * 4096 + q * 64 + r ≤ 127 := by omega
      have htwo : ¬ m * 262144 + p * 4096 + q * 64 + r ≤ 2047 := by omega
      have hthree : ¬ m * 262144 + p * 4096 + q * 64 + r ≤ 65535 := by omega
      have hlead : (m * 262144 + p * 4096 + q * 64 + r) / 262144 % 8 = m := by omega
      have hupper : (m * 262144 + p * 4096 + q * 64 + r) / 4096 % 64 = p := by omega
      have hlower : (m * 262144 + p * 4096 + q * 64 + r) / 64 % 64 = q := by omega
      have hlast : (m * 262144 + p * 4096 + q * 64 + r) % 64 = r := by omega
      rw [String.utf8EncodeChar, hvalue, ha, hb, hd, he]
      simp only [hone, htwo, hthree, hlead, hupper, hlower, hlast, if_false]

/-- Bytes that are decoded are the bytes of what they are decoded to. -/
theorem utf8Encode_of_utf8Decode? {bytes : List UInt8} {cs : List Char}
    (h : utf8Decode? bytes = some cs) : utf8Encode cs = bytes := by
  -- every step takes the sequence of one character off
  have hstep : ∀ {front rest : List UInt8} {c : Char} {cs : List Char},
      String.utf8EncodeChar c = front →
      (∀ {cs}, utf8Decode? rest = some cs → utf8Encode cs = rest) →
      (utf8Decode? rest).map (c :: ·) = some cs → utf8Encode cs = front ++ rest := by
    intro front rest c cs hc ih hmap
    obtain ⟨more, hmore, rfl⟩ := Option.map_eq_some_iff.mp hmap
    rw [utf8Encode, List.flatMap_cons, ← utf8Encode, ih hmore, hc]
  fun_induction utf8Decode? bytes generalizing cs with
  | case1 => rw [← Option.some.inj h, utf8Encode_nil]
  | case2 a rest ha ih => exact hstep (encodeChar_scalar1 ha) ih h
  | case3 => cases h
  | case4 a ha b rest c hc ih => exact hstep (encodeChar_scalar2 hc) ih h
  | case5 => cases h
  | case6 a ha b hb d rest c hc ih => exact hstep (encodeChar_scalar3 hc) ih h
  | case7 => cases h
  | case8 a ha b hb d hd e rest c hc ih => exact hstep (encodeChar_scalar4 hc) ih h
  | case9 => cases h

end AnchoredMetadata.Text
