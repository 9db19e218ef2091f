import AnchoredMetadata.Json.Record
import AnchoredMetadata.Json.Writer
import AnchoredMetadata.Proofs.Text.Utf8

/-!
# Strings read back

Every character is written so that reading takes its bytes off again: by itself, by a letter after a
backslash or by its code. So a string reads back as itself, whatever follows it.
-/

namespace AnchoredMetadata.Json

open Text

/-! ## Written characters -/

/-- A character is written by a letter after a backslash, and this letter is read as it. -/
def IsShort (c : Char) : Prop :=
  ∃ letter b x, writeChar c = ['\\', letter] ∧ utf8Encode ['\\', letter] = [92, b] ∧ b ≠ 117 ∧
    simpleEscape? b = some x ∧ String.utf8EncodeChar c = [x]

/-- The characters of the code of a control character. -/
def codeText (n : Nat) : List Char :=
  ['\\', 'u', '0', '0', hexDigit (n / 16), hexDigit (n % 16)]

/-- A character is written by a letter, by its code if it is a control character, or by itself. -/
theorem writeChar_cases (c : Char) :
    IsShort c ∨ (c.toNat < 32 ∧ writeChar c = codeText c.toNat) ∨
      (32 ≤ c.toNat ∧ c ≠ '"' ∧ c ≠ '\\' ∧ writeChar c = [c]) := by
  have hshort {d : Char} (letter : Char) (b x : UInt8) (hw : writeChar d = ['\\', letter])
      (hb : utf8Encode ['\\', letter] = [92, b]) (hne : b ≠ 117)
      (hx : simpleEscape? b = some x) (hd : String.utf8EncodeChar d = [x]) : IsShort d :=
    ⟨letter, b, x, hw, hb, hne, hx, hd⟩
  by_cases hquote : c = '"'
  · subst hquote
    exact Or.inl (hshort '"' 34 34 rfl rfl (by decide) rfl rfl)
  by_cases hslash : c = '\\'
  · subst hslash
    exact Or.inl (hshort '\\' 92 92 rfl rfl (by decide) rfl rfl)
  by_cases hback : c = '\x08'
  · subst hback
    exact Or.inl (hshort 'b' 98 8 rfl rfl (by decide) rfl rfl)
  by_cases hfeed : c = '\x0c'
  · subst hfeed
    exact Or.inl (hshort 'f' 102 12 rfl rfl (by decide) rfl rfl)
  by_cases hline : c = '\n'
  · subst hline
    exact Or.inl (hshort 'n' 110 10 rfl rfl (by decide) rfl rfl)
  by_cases hreturn : c = '\r'
  · subst hreturn
    exact Or.inl (hshort 'r' 114 13 rfl rfl (by decide) rfl rfl)
  by_cases htab : c = '\t'
  · subst htab
    exact Or.inl (hshort 't' 116 9 rfl rfl (by decide) rfl rfl)
  rw [writeChar, if_neg hquote, if_neg hslash, if_neg hback, if_neg hfeed, if_neg hline,
    if_neg hreturn, if_neg htab]
  by_cases hcontrol : c.toNat < 32
  · exact Or.inr (Or.inl ⟨hcontrol, if_pos hcontrol⟩)
  · exact Or.inr (Or.inr ⟨Nat.le_of_not_lt hcontrol, hquote, hslash, if_neg hcontrol⟩)

/-! ## Taking characters off -/

/-- Reading takes some bytes of a string off in a few steps and gives their content. -/
def TakesOff (bytes content : List UInt8) : Prop :=
  ∃ steps ≤ bytes.length, ∀ fuel rest,
    readStringBytes (steps + fuel) (bytes ++ rest) =
      (readStringBytes fuel rest).map fun (more, rest) => (content ++ more, rest)

theorem takesOff_nil : TakesOff [] [] := by
  refine ⟨0, Nat.le_refl 0, fun fuel rest => ?_⟩
  rw [Nat.zero_add, List.nil_append]
  cases readStringBytes fuel rest <;> rfl

theorem TakesOff.append {a b x y : List UInt8} (ha : TakesOff a x) (hb : TakesOff b y) :
    TakesOff (a ++ b) (x ++ y) := by
  obtain ⟨m, hm, ha⟩ := ha
  obtain ⟨n, hn, hb⟩ := hb
  refine ⟨m + n, by rw [List.length_append]; omega, fun fuel rest => ?_⟩
  rw [Nat.add_assoc, List.append_assoc, ha, hb]
  cases readStringBytes fuel rest with
  | error f => rfl
  | ok p => simp only [Except.map, List.append_assoc]

/-- A byte that is no quote, no backslash and no control character stands for itself. -/
theorem takesOff_plain {b : UInt8} (hquote : b ≠ 34) (hslash : b ≠ 92) (hcontrol : 32 ≤ b) :
    TakesOff [b] [b] := by
  refine ⟨1, Nat.le_refl 1, fun fuel rest => ?_⟩
  rw [Nat.add_comm, List.singleton_append, readStringBytes.eq_def]
  simp only [if_neg hquote, if_neg hslash, if_neg (UInt8.not_lt.mpr hcontrol)]
  cases readStringBytes fuel rest <;> rfl

theorem takesOff_plains {bytes : List UInt8} (h : ∀ b ∈ bytes, b ≠ 34 ∧ b ≠ 92 ∧ 32 ≤ b) :
    TakesOff bytes bytes := by
  induction bytes with
  | nil => exact takesOff_nil
  | cons b rest ih =>
    obtain ⟨hquote, hslash, hcontrol⟩ := h b List.mem_cons_self
    exact (takesOff_plain hquote hslash hcontrol).append
      (ih fun x hx => h x (List.mem_cons_of_mem b hx))

/-- A letter after a backslash stands for the byte that it names. -/
theorem takesOff_letter {b x : UInt8} (hcode : b ≠ 117) (h : simpleEscape? b = some x) :
    TakesOff [92, b] [x] := by
  refine ⟨1, Nat.le_add_left 1 1, fun fuel rest => ?_⟩
  rw [Nat.add_comm, List.cons_append, List.singleton_append, readStringBytes,
    if_neg (by decide), if_pos rfl]
  simp only [if_neg hcode, h]
  cases readStringBytes fuel rest <;> rfl

/-- The bytes of the digits of a code. -/
def codeDigits (n : Nat) : List UInt8 :=
  [48, 48, UInt8.ofNat (hexDigit (n / 16)).toNat, UInt8.ofNat (hexDigit (n % 16)).toNat]

theorem utf8Encode_codeText : ∀ n < 32,
    utf8Encode (codeText n) = 92 :: 117 :: codeDigits n ∧
      hexUnit? 48 48 (UInt8.ofNat (hexDigit (n / 16)).toNat)
        (UInt8.ofNat (hexDigit (n % 16)).toNat) = some n := by
  decide +kernel

theorem readCodeEscape_codeDigits {c : Char} (h : c.toNat < 32) (rest : List UInt8) :
    readCodeEscape (codeDigits c.toNat ++ rest) = .ok (c, rest) := by
  have hunit := (utf8Encode_codeText c.toNat h).2
  have htrailing : ¬ (0xDC00 ≤ c.toNat ∧ c.toNat ≤ 0xDFFF) := by omega
  have hplain : c.toNat < 0xD800 ∨ 0xDBFF < c.toNat := by omega
  simp only [codeDigits, List.cons_append, List.nil_append, readCodeEscape, readHexUnit, hunit,
    bind, Except.bind, Bool.and_eq_true, Bool.or_eq_true, decide_eq_true_eq, if_neg htrailing,
    if_pos hplain, Char.ofNat_toNat]
  rfl

/-- The code of a control character stands for it. -/
theorem takesOff_code {c : Char} (h : c.toNat < 32) :
    TakesOff (92 :: 117 :: codeDigits c.toNat) (String.utf8EncodeChar c) := by
  refine ⟨1, Nat.le_add_left 1 5, fun fuel rest => ?_⟩
  rw [Nat.add_comm, List.cons_append, List.cons_append, readStringBytes, if_neg (by decide),
    if_pos rfl]
  simp only [if_true]
  rw [readCodeEscape_codeDigits h]
  simp only [bind, Except.bind]
  cases readStringBytes fuel rest <;> rfl

/-- The bytes of a written character are taken off and give its own. -/
theorem takesOff_writeChar (c : Char) :
    TakesOff (utf8Encode (writeChar c)) (String.utf8EncodeChar c) := by
  rcases writeChar_cases c with hshort | ⟨hcontrol, hwrite⟩ | ⟨hplain, hquote, hslash, hwrite⟩
  · obtain ⟨letter, b, x, hwrite, hbytes, hne, hx, hc⟩ := hshort
    rw [hwrite, hbytes, hc]
    exact takesOff_letter hne hx
  · rw [hwrite, (utf8Encode_codeText c.toNat hcontrol).1]
    exact takesOff_code hcontrol
  · have hsame : utf8Encode (writeChar c) = String.utf8EncodeChar c := by
      rw [hwrite, utf8Encode, List.flatMap_singleton]
    rw [hsame]
    refine takesOff_plains fun b hb => ?_
    have hother (d : Char) (hd : d.toNat < 128) (hc : c ≠ d) : b.toNat ≠ d.toNat := by
      intro he
      apply hc
      rw [← Char.ofNat_toNat c, ← Char.ofNat_toNat d]
      rcases mem_encodeChar hb with ⟨_, hlow⟩ | ⟨_, hhigh⟩
      · rw [← hlow, he]
      · omega
    refine ⟨?_, ?_, ?_⟩
    · rintro rfl
      exact hother '"' (by decide) hquote rfl
    · rintro rfl
      exact hother '\\' (by decide) hslash rfl
    · rw [UInt8.le_iff_toNat_le]
      rcases mem_encodeChar hb with ⟨_, hlow⟩ | ⟨_, hhigh⟩
      · exact hlow ▸ hplain
      · exact Nat.le_trans (by decide) hhigh

/-! ## Strings -/

theorem takesOff_writeChars (cs : List Char) :
    TakesOff (utf8Encode (cs.flatMap writeChar)) (utf8Encode cs) := by
  induction cs with
  | nil => exact takesOff_nil
  | cons c rest ih =>
    rw [List.flatMap_cons, utf8Encode_append]
    exact (takesOff_writeChar c).append ih

/-- A written string is taken off whole, whatever follows it. -/
theorem readStringRest_write (s : String) (rest : List UInt8) :
    readStringRest (utf8Encode (s.toList.flatMap writeChar) ++ 34 :: rest) = .ok (s, rest) := by
  obtain ⟨steps, hsteps, htake⟩ := takesOff_writeChars s.toList
  obtain ⟨fuel, hfuel⟩ : ∃ fuel,
      (utf8Encode (s.toList.flatMap writeChar) ++ 34 :: rest).length + 1 = steps + (fuel + 1) := by
    rw [List.length_append, List.length_cons]
    exact ⟨(utf8Encode (s.toList.flatMap writeChar)).length + rest.length + 1 - steps, by omega⟩
  have hclose : readStringBytes (fuel + 1) (34 :: rest) = .ok ([], rest) := by
    rw [readStringBytes.eq_def]
    rfl
  rw [readStringRest, hfuel, htake, hclose]
  simp only [Except.map, bind, Except.bind, List.append_nil, utf8Decode?_utf8Encode,
    String.ofList_toList]
  rfl

end AnchoredMetadata.Json
