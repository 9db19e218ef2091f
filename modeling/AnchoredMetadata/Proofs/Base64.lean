import AnchoredMetadata.Certificate

/-!
# Base64 undone

Three bytes are four symbols, and the padding of the last group says how many bytes it holds. What
is written is text without blanks, so a certificate is read from its own text.
-/

namespace AnchoredMetadata.Base64

/-! ## Symbols -/

theorem value?_symbol : ∀ v < 64, value? (symbol v) = some v := by decide +kernel

theorem symbol_ne_pad : ∀ v < 64, (symbol v == pad) = false := by decide +kernel

theorem symbolAt_symbol {v : Nat} (h : v < 64) (offset : Nat) :
    symbolAt (symbol v) offset = .ok v := by
  rw [symbolAt, value?_symbol v h]

/-- A symbol of the last group is kept with its value. -/
theorem splitLast_symbol {v : Nat} (h : v < 64) (offset index : Nat) (symbols : List (UInt8 × Nat))
    (rest : List UInt8) :
    splitLast offset index symbols 0 (symbol v :: rest) =
      splitLast offset (index + 1) (symbols ++ [(symbol v, v)]) 0 rest := by
  rw [splitLast, symbol_ne_pad v h, if_neg (by decide), if_neg (by decide), symbolAt_symbol h]
  rfl

/-- Padding after two symbols is counted. -/
theorem splitLast_pad {index : Nat} (h : 2 ≤ index) (offset : Nat) (symbols : List (UInt8 × Nat))
    (padding : Nat) (rest : List UInt8) :
    splitLast offset index symbols padding (pad :: rest) =
      splitLast offset (index + 1) symbols (padding + 1) rest := by
  rw [splitLast, beq_self_eq_true, if_pos rfl, if_neg (Nat.not_lt.mpr h)]

/-! ## Groups -/

/-- The bits of three bytes from those of four symbols. -/
theorem bytes_of_symbols (a b c : UInt8) :
    UInt8.ofNat (a.toNat / 4 * 4 + (a.toNat % 4 * 16 + b.toNat / 16) / 16) = a ∧
      UInt8.ofNat ((a.toNat % 4 * 16 + b.toNat / 16) % 16 * 16 +
        (b.toNat % 16 * 4 + c.toNat / 64) / 4) = b ∧
      UInt8.ofNat ((b.toNat % 16 * 4 + c.toNat / 64) % 4 * 64 + c.toNat % 64) = c := by
  have ha := a.toNat_lt
  have hb := b.toNat_lt
  have hc := c.toNat_lt
  have h₁ : a.toNat / 4 * 4 + (a.toNat % 4 * 16 + b.toNat / 16) / 16 = a.toNat := by omega
  have h₂ : (a.toNat % 4 * 16 + b.toNat / 16) % 16 * 16 + (b.toNat % 16 * 4 + c.toNat / 64) / 4 =
      b.toNat := by omega
  have h₃ : (b.toNat % 16 * 4 + c.toNat / 64) % 4 * 64 + c.toNat % 64 = c.toNat := by omega
  rw [h₁, h₂, h₃]
  exact ⟨UInt8.ofNat_toNat, UInt8.ofNat_toNat, UInt8.ofNat_toNat⟩

theorem decodeLast_one (a : UInt8) (offset : Nat) :
    decodeLast (encode [a]) offset = .ok [a] := by
  have ha := a.toNat_lt
  have hzero : a.toNat % 4 * 16 % 16 = 0 := by omega
  obtain ⟨hbyte, -, -⟩ := bytes_of_symbols a 0 0
  simp only [UInt8.toNat_zero, Nat.zero_div, Nat.add_zero] at hbyte
  rw [encode, decodeLast, splitLast_symbol (by omega), splitLast_symbol (by omega),
    splitLast_pad (by decide), splitLast_pad (by decide)]
  simp only [splitLast, bind, Except.bind, List.nil_append, List.cons_append, hzero, hbyte]
  rfl

theorem decodeLast_two (a b : UInt8) (offset : Nat) :
    decodeLast (encode [a, b]) offset = .ok [a, b] := by
  have ha := a.toNat_lt
  have hb := b.toNat_lt
  have hzero : b.toNat % 16 * 4 % 4 = 0 := by omega
  obtain ⟨hfirst, hsecond, -⟩ := bytes_of_symbols a b 0
  simp only [UInt8.toNat_zero, Nat.zero_div, Nat.add_zero] at hsecond
  rw [encode, decodeLast, splitLast_symbol (by omega), splitLast_symbol (by omega),
    splitLast_symbol (by omega), splitLast_pad (by decide)]
  simp only [splitLast, bind, Except.bind, List.nil_append, List.cons_append, hzero, hfirst,
    hsecond]
  rfl

theorem decodeLast_three (a b c : UInt8) (offset : Nat) :
    decodeLast (encode [a, b, c]) offset = .ok [a, b, c] := by
  have ha := a.toNat_lt
  have hb := b.toNat_lt
  have hc := c.toNat_lt
  obtain ⟨hfirst, hsecond, hthird⟩ := bytes_of_symbols a b c
  rw [encode, encode, decodeLast, splitLast_symbol (by omega), splitLast_symbol (by omega),
    splitLast_symbol (by omega), splitLast_symbol (by omega)]
  simp only [splitLast, bind, Except.bind, List.nil_append, List.cons_append, hfirst, hsecond,
    hthird]
  rfl

theorem decodeGroup_encode (a b c : UInt8) (offset : Nat) :
    decodeGroup (symbol (a.toNat / 4)) (symbol (a.toNat % 4 * 16 + b.toNat / 16))
      (symbol (b.toNat % 16 * 4 + c.toNat / 64)) (symbol (c.toNat % 64)) offset =
        .ok [a, b, c] := by
  have ha := a.toNat_lt
  have hb := b.toNat_lt
  have hc := c.toNat_lt
  obtain ⟨hfirst, hsecond, hthird⟩ := bytes_of_symbols a b c
  rw [decodeGroup, symbolAt_symbol (by omega), symbolAt_symbol (by omega),
    symbolAt_symbol (by omega), symbolAt_symbol (by omega)]
  simp only [bind, Except.bind, hfirst, hsecond, hthird]
  rfl

/-! ## Texts -/

theorem length_encode (bytes : List UInt8) : (encode bytes).length % 4 = 0 := by
  fun_induction encode bytes with
  | case1 => rfl
  | case2 a => exact Nat.mod_self 4
  | case3 a b => exact Nat.mod_self 4
  | case4 a b c rest m n o ih =>
    simp only [List.length_cons]
    omega

theorem encode_ne_nil {bytes : List UInt8} (h : bytes ≠ []) : encode bytes ≠ [] := by
  fun_cases encode bytes with
  | case1 => exact absurd rfl h
  | case2 => exact List.cons_ne_nil _ _
  | case3 => exact List.cons_ne_nil _ _
  | case4 => exact List.cons_ne_nil _ _

theorem decodeFrom_encode (bytes : List UInt8) (offset : Nat) :
    decodeFrom offset (encode bytes) = .ok bytes := by
  fun_induction encode bytes generalizing offset with
  | case1 => rfl
  | case2 a => exact decodeLast_one a offset
  | case3 a b => exact decodeLast_two a b offset
  | case4 a b c rest m n o ih =>
    cases rest with
    | nil => exact decodeLast_three a b c offset
    | cons d rest =>
      obtain ⟨e, more, he⟩ := List.exists_cons_of_ne_nil (encode_ne_nil (List.cons_ne_nil d rest))
      have htail := ih (offset + 4)
      rw [he] at htail ⊢
      rw [decodeFrom, decodeGroup_encode, htail]
      rfl

/-- What is written is read as the bytes it was written for. -/
theorem decode_encode (bytes : List UInt8) : decode (encode bytes) = .ok bytes := by
  rw [decode, length_encode]
  exact decodeFrom_encode bytes 0

/-- What holds of symbols and padding holds of all that is written. -/
theorem forall_encode {P : UInt8 → Prop} (hpad : P pad) (hsymbol : ∀ v < 64, P (symbol v))
    (bytes : List UInt8) : ∀ b ∈ encode bytes, P b := by
  fun_induction encode bytes with
  | case1 => exact nofun
  | case2 a n =>
    have ha := a.toNat_lt
    simp only [List.forall_mem_cons]
    exact ⟨hsymbol _ (by omega), hsymbol _ (by omega), hpad, hpad, nofun⟩
  | case3 a b m n =>
    have ha := a.toNat_lt
    have hb := b.toNat_lt
    simp only [List.forall_mem_cons]
    exact ⟨hsymbol _ (by omega), hsymbol _ (by omega), hsymbol _ (by omega), hpad, nofun⟩
  | case4 a b c rest m n o ih =>
    have ha := a.toNat_lt
    have hb := b.toNat_lt
    have hc := c.toNat_lt
    simp only [List.forall_mem_cons]
    exact ⟨hsymbol _ (by omega), hsymbol _ (by omega), hsymbol _ (by omega), hsymbol _ (by omega),
      ih⟩

/-- Written bytes are characters that are not blank. -/
theorem encode_characters (bytes : List UInt8) :
    ∀ b ∈ encode bytes, String.utf8EncodeChar (Char.ofNat b.toNat) = [b] ∧
      Text.isBlank (Char.ofNat b.toNat) = false :=
  forall_encode (by decide +kernel) (by decide +kernel) bytes

/-- The text of some bytes has no blanks. -/
theorem removeBlanks_encodeString (bytes : List UInt8) :
    Text.removeBlanks (encodeString bytes).toList = (encodeString bytes).toList := by
  rw [encodeString, String.toList_ofList]
  exact Text.removeBlanks_eq_self
    (List.forall_mem_map.mpr fun b hb => (encode_characters bytes b hb).2)

theorem utf8_encodeString (bytes : List UInt8) : Text.utf8 (encodeString bytes) = encode bytes := by
  rw [Text.utf8, encodeString, String.toList_ofList, Text.utf8Encode, List.flatMap_map,
    List.flatMap_def, List.map_congr_left fun b hb => (encode_characters bytes b hb).1,
    ← List.flatMap_def]
  exact List.flatMap_singleton' _

end AnchoredMetadata.Base64

namespace AnchoredMetadata.Certificate

/-- A certificate keeps the bytes that it was read from. -/
theorem encoding_of_ofEncoding {c : Certificate} {bytes : List UInt8}
    (h : ofEncoding bytes = .ok c) : c.encoding = bytes := by
  rw [ofEncoding] at h
  split at h
  · cases h
    rfl
  · cases h

/-- A certificate that was read from bytes is read from its own text. -/
theorem ofBase64_toBase64 {c : Certificate} {bytes : List UInt8} (h : ofEncoding bytes = .ok c) :
    ofBase64 c.toBase64 = .ok c := by
  rw [ofBase64, toBase64, Base64.removeBlanks_encodeString, ← Text.utf8,
    Base64.utf8_encodeString, Base64.decode_encode, encoding_of_ofEncoding h]
  exact h

end AnchoredMetadata.Certificate
