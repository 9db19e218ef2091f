import AnchoredMetadata.Proofs.Base64
import AnchoredMetadata.Proofs.Except
import AnchoredMetadata.Proofs.Text.Utf8

/-!
# Canonical base64

What is read was written: the bytes that a text gives are written as that text again. Of all texts
of a certificate only one has no blanks, and the others are that one with blanks between its
characters.
-/

namespace AnchoredMetadata

namespace Base64

/-! ## Symbols -/

/-- A byte with a value is the symbol of that value. -/
theorem value?_eq_some {b : UInt8} {v : Nat} (h : value? b = some v) : v < 64 ∧ b = symbol v := by
  have hall : ∀ n < 256, ∀ w ∈ value? (UInt8.ofNat n), w < 64 ∧ UInt8.ofNat n = symbol w := by
    decide +kernel
  have hb := hall b.toNat b.toNat_lt
  rw [UInt8.ofNat_toNat] at hb
  exact hb v h

theorem symbolAt_eq_ok {b : UInt8} {offset v : Nat} (h : symbolAt b offset = .ok v) :
    v < 64 ∧ b = symbol v := by
  rw [symbolAt] at h
  split at h
  · next w hw =>
    cases h
    exact value?_eq_some hw
  · cases h

/-- The last group is what is left of it: its symbols, with their values, and then its padding. -/
theorem splitLast_eq_ok {offset index padding padding' : Nat}
    {symbols symbols' : List (UInt8 × Nat)} {group : List UInt8}
    (h : splitLast offset index symbols padding group = .ok (symbols', padding')) :
    ∃ more extra, symbols' = symbols ++ more ∧ padding' = padding + extra ∧
      group = more.map Prod.fst ++ List.replicate extra pad ∧
      (∀ x ∈ more, x.2 < 64 ∧ x.1 = symbol x.2) ∧ (0 < padding → more = []) := by
  induction group generalizing index symbols padding with
  | nil =>
    rw [splitLast] at h
    cases h
    exact ⟨[], 0, (List.append_nil _).symm, rfl, rfl, List.forall_mem_nil _, fun _ => rfl⟩
  | cons b rest ih =>
    rw [splitLast] at h
    split at h
    · next hpad =>
      split at h
      · cases h
      · obtain ⟨more, extra, hsymbols, hpadding, hrest, -, hmore⟩ := ih h
        -- no symbol stands after padding
        obtain rfl : more = [] := hmore (Nat.succ_pos padding)
        refine ⟨[], extra + 1, hsymbols, by omega, ?_, List.forall_mem_nil _, fun _ => rfl⟩
        rw [eq_of_beq hpad, hrest]
        rfl
    · split at h
      · cases h
      · next hnone =>
        obtain ⟨v, hv, h⟩ := bind_eq_ok h
        obtain ⟨more, extra, hsymbols, hpadding, hrest, hmore, -⟩ := ih h
        refine ⟨(b, v) :: more, extra, ?_, hpadding, ?_, ?_, fun h => absurd h hnone⟩
        · rw [hsymbols, List.append_assoc]
          rfl
        · rw [hrest]
          rfl
        · exact List.forall_mem_cons.mpr ⟨symbolAt_eq_ok hv, hmore⟩

/-! ## Groups -/

/-- The bits of four symbols from those of three bytes. -/
theorem symbols_of_bytes {p q r s : Nat} (hp : p < 64) (hq : q < 64) (hr : r < 64) (hs : s < 64) :
    (UInt8.ofNat (p * 4 + q / 16)).toNat / 4 = p ∧
      (UInt8.ofNat (p * 4 + q / 16)).toNat % 4 * 16 +
        (UInt8.ofNat (q % 16 * 16 + r / 4)).toNat / 16 = q ∧
      (UInt8.ofNat (q % 16 * 16 + r / 4)).toNat % 16 * 4 +
        (UInt8.ofNat (r % 4 * 64 + s)).toNat / 64 = r ∧
      (UInt8.ofNat (r % 4 * 64 + s)).toNat % 64 = s := by
  simp only [UInt8.toNat_ofNat']
  omega

theorem encode_group {p q r s : Nat} (hp : p < 64) (hq : q < 64) (hr : r < 64) (hs : s < 64)
    (bytes : List UInt8) :
    encode (UInt8.ofNat (p * 4 + q / 16) :: UInt8.ofNat (q % 16 * 16 + r / 4) ::
      UInt8.ofNat (r % 4 * 64 + s) :: bytes) =
        symbol p :: symbol q :: symbol r :: symbol s :: encode bytes := by
  obtain ⟨hfirst, hsecond, hthird, hfourth⟩ := symbols_of_bytes hp hq hr hs
  simp only [encode, hfirst, hsecond, hthird, hfourth]

/-- Three symbols whose last two bits are zero are those of two bytes. -/
theorem encode_two {p q r : Nat} (hp : p < 64) (hq : q < 64) (hr : r < 64) (hzero : r % 4 = 0) :
    encode [UInt8.ofNat (p * 4 + q / 16), UInt8.ofNat (q % 16 * 16 + r / 4)] =
      [symbol p, symbol q, symbol r, pad] := by
  obtain ⟨hfirst, hsecond, hthird, -⟩ := symbols_of_bytes hp hq hr (by decide : 0 < 64)
  rw [hzero] at hthird
  simp only [encode, hfirst, hsecond]
  rw [show (UInt8.ofNat (q % 16 * 16 + r / 4)).toNat % 16 * 4 = r from hthird]

/-- Two symbols whose last four bits are zero are those of one byte. -/
theorem encode_one {p q : Nat} (hp : p < 64) (hq : q < 64) (hzero : q % 16 = 0) :
    encode [UInt8.ofNat (p * 4 + q / 16)] = [symbol p, symbol q, pad, pad] := by
  obtain ⟨hfirst, hsecond, -, -⟩ :=
    symbols_of_bytes hp hq (by decide : 0 < 64) (by decide : 0 < 64)
  rw [hzero] at hsecond
  simp only [encode, hfirst]
  rw [show (UInt8.ofNat (p * 4 + q / 16)).toNat % 4 * 16 = q from hsecond]

theorem decodeGroup_eq_ok {a b c d : UInt8} {offset : Nat} {bytes : List UInt8}
    (h : decodeGroup a b c d offset = .ok bytes) (rest : List UInt8) :
    encode (bytes ++ rest) = a :: b :: c :: d :: encode rest := by
  obtain ⟨p, ha, h₁⟩ := bind_eq_ok h
  obtain ⟨q, hb, h₂⟩ := bind_eq_ok h₁
  obtain ⟨r, hc, h₃⟩ := bind_eq_ok h₂
  obtain ⟨s, hd, h₄⟩ := bind_eq_ok h₃
  obtain ⟨hp, rfl⟩ := symbolAt_eq_ok ha
  obtain ⟨hq, rfl⟩ := symbolAt_eq_ok hb
  obtain ⟨hr, rfl⟩ := symbolAt_eq_ok hc
  obtain ⟨hs, rfl⟩ := symbolAt_eq_ok hd
  rw [← Except.ok.inj h₄]
  exact encode_group hp hq hr hs rest

/-- The last group is written for the bytes it gives. -/
theorem decodeLast_eq_ok {group bytes : List UInt8} {offset : Nat} (hlength : group.length ≤ 4)
    (h : decodeLast group offset = .ok bytes) : encode bytes = group := by
  obtain ⟨⟨symbols, padding⟩, hsplit, hread⟩ := bind_eq_ok h
  obtain ⟨more, extra, hsymbols, hpadding, rfl, hmore, -⟩ := splitLast_eq_ok hsplit
  rw [List.nil_append] at hsymbols
  rw [Nat.zero_add] at hpadding
  subst hsymbols hpadding
  rw [List.length_append, List.length_map, List.length_replicate] at hlength
  match symbols with
  | [] =>
    cases padding with
    | zero =>
      rw [← Except.ok.inj hread]
      rfl
    | succ n => cases hread
  | [_] => cases hread
  | [(a, p), (b, q)] =>
    obtain ⟨⟨hp, rfl⟩, ⟨hq, rfl⟩, -⟩ := by simpa only [List.forall_mem_cons] using hmore
    obtain ⟨htwo, hread⟩ := ite_throw_eq_ok hread
    obtain ⟨hzero, hread⟩ := ite_throw_eq_ok hread
    rw [← Except.ok.inj hread, encode_one hp hq (Decidable.not_not.mp hzero),
      Decidable.not_not.mp htwo]
    rfl
  | [(a, p), (b, q), (c, r)] =>
    obtain ⟨⟨hp, rfl⟩, ⟨hq, rfl⟩, ⟨hr, rfl⟩, -⟩ := by
      simpa only [List.forall_mem_cons] using hmore
    obtain ⟨hone, hread⟩ := ite_throw_eq_ok hread
    obtain ⟨hzero, hread⟩ := ite_throw_eq_ok hread
    rw [← Except.ok.inj hread, encode_two hp hq hr (Decidable.not_not.mp hzero),
      Decidable.not_not.mp hone]
    rfl
  | (a, p) :: (b, q) :: (c, r) :: (d, s) :: more =>
    obtain ⟨⟨hp, rfl⟩, ⟨hq, rfl⟩, ⟨hr, rfl⟩, ⟨hs, rfl⟩, -⟩ := by
      simpa only [List.forall_mem_cons] using hmore
    simp only [List.length_cons] at hlength
    -- four bytes are four symbols without padding
    obtain rfl : more = [] := List.eq_nil_of_length_eq_zero (by omega)
    obtain rfl : padding = 0 := by omega
    rw [← Except.ok.inj hread, encode_group hp hq hr hs []]
    rfl

/-! ## Texts -/

theorem decodeFrom_eq_ok {text bytes : List UInt8} {offset : Nat}
    (h : decodeFrom offset text = .ok bytes) : encode bytes = text := by
  fun_induction decodeFrom offset text generalizing bytes with
  | case1 offset a b c d e rest ih =>
    obtain ⟨head, hhead, h₁⟩ := bind_eq_ok h
    obtain ⟨tail, htail, h₂⟩ := bind_eq_ok h₁
    rw [← Except.ok.inj h₂, decodeGroup_eq_ok hhead, ih htail]
  | case2 offset group hgroup =>
    refine decodeLast_eq_ok ?_ h
    match group with
    | [] | [_] | [_, _] | [_, _, _] | [_, _, _, _] => simp
    | a :: b :: c :: d :: e :: rest => exact (hgroup a b c d e rest rfl).elim

/-- A text gives some bytes exactly when it is written for them. -/
theorem decode_eq_ok_iff {text bytes : List UInt8} :
    decode text = .ok bytes ↔ text = encode bytes := by
  constructor
  · intro h
    rw [decode] at h
    split at h
    · split at h
      · cases h
      · exact (decodeFrom_eq_ok h).symm
    · exact (decodeFrom_eq_ok h).symm
  · rintro rfl
    exact decode_encode bytes

theorem encodeString_inj {a b : List UInt8} : encodeString a = encodeString b ↔ a = b := by
  refine ⟨fun h => ?_, congrArg encodeString⟩
  have hread := decode_encode a
  rw [← utf8_encodeString, h, utf8_encodeString, decode_encode] at hread
  exact (Except.ok.inj hread).symm

end Base64

/-! ## Blanks in a text -/

namespace Text

/-- A second text is a first with blank characters inserted, anywhere and any number of them. -/
inductive Interspersed : List Char → List Char → Prop
  | nil : Interspersed [] []
  | keep {text wrapped : List Char} (c : Char) (h : Interspersed text wrapped) :
    Interspersed (c :: text) (c :: wrapped)
  | insert {text wrapped : List Char} (c : Char) (hc : isBlank c = true)
      (h : Interspersed text wrapped) : Interspersed text (c :: wrapped)

theorem Interspersed.removeBlanks_eq {text wrapped : List Char} (h : Interspersed text wrapped) :
    removeBlanks wrapped = removeBlanks text := by
  induction h with
  | nil => rfl
  | keep c _ ih =>
    rw [removeBlanks, removeBlanks, List.filter_cons, List.filter_cons, ← removeBlanks,
      ← removeBlanks, ih]
  | insert c hc _ ih =>
    rw [removeBlanks, List.filter_cons_of_neg (by rw [hc]; decide), ← removeBlanks, ih]

theorem interspersed_removeBlanks (wrapped : List Char) :
    Interspersed (removeBlanks wrapped) wrapped := by
  induction wrapped with
  | nil => exact .nil
  | cons c wrapped ih =>
    cases hc : isBlank c with
    | true =>
      rw [removeBlanks, List.filter_cons_of_neg (by rw [hc]; decide)]
      exact .insert c hc ih
    | false =>
      rw [removeBlanks, List.filter_cons_of_pos (by rw [hc]; rfl)]
      exact .keep c ih

/-- Inserting blanks into a text that has none is undone by removing all. -/
theorem interspersed_iff {text wrapped : List Char} (htext : removeBlanks text = text) :
    Interspersed text wrapped ↔ removeBlanks wrapped = text := by
  constructor
  · intro h
    rw [h.removeBlanks_eq, htext]
  · rintro rfl
    exact interspersed_removeBlanks wrapped

end Text

/-! ## Certificates -/

namespace Certificate

variable {c d : Certificate} {w : String}

/-- A certificate has no blanks in its text. -/
theorem removeBlanks_toBase64 (c : Certificate) :
    Text.removeBlanks c.toBase64.toList = c.toBase64.toList :=
  Base64.removeBlanks_encodeString c.encoding

/-- A text is that of a certificate exactly when it is the certificate's own up to blanks. -/
theorem ofBase64_eq_ok_iff :
    ofBase64 w = .ok c ↔
      ofEncoding c.encoding = .ok c ∧ Text.removeBlanks w.toList = c.toBase64.toList := by
  have htext : Base64.encode c.encoding = Text.utf8Encode c.toBase64.toList :=
    (Base64.utf8_encodeString c.encoding).symm
  constructor
  · intro h
    rw [ofBase64] at h
    split at h
    · next bytes hbytes =>
      obtain rfl := encoding_of_ofEncoding h
      rw [Base64.decode_eq_ok_iff, htext, Text.utf8Encode_inj] at hbytes
      exact ⟨h, hbytes⟩
    · cases h
  · rintro ⟨h, hw⟩
    rw [ofBase64, hw, ← htext, Base64.decode_encode]
    exact h

/-- Certificates that were read are the same as soon as their encodings are. -/
theorem eq_of_encoding (hc : ofEncoding c.encoding = .ok c) (hd : ofEncoding d.encoding = .ok d)
    (h : c.encoding = d.encoding) : c = d := by
  rw [h, hd] at hc
  exact (Except.ok.inj hc).symm

/-- A text is read as a certificate exactly when the certificate was made from some bytes and the
text is the certificate's own with blanks inserted, anywhere. Without its blanks a text that is read
is the own text of what it is read as. So two texts that are read give the same certificate exactly
when they are the same up to blanks, and the comparison of certificates says so. -/
theorem text_unique_up_to_blanks :
    (∀ c w, ofBase64 w = .ok c ↔
      (∃ bytes, ofEncoding bytes = .ok c) ∧ Text.Interspersed c.toBase64.toList w.toList) ∧
    (∀ c w, ofBase64 w = .ok c → String.ofList (Text.removeBlanks w.toList) = c.toBase64) ∧
    ∀ v w c d, ofBase64 v = .ok c → ofBase64 w = .ok d →
      (c = d ↔ Text.removeBlanks v.toList = Text.removeBlanks w.toList) ∧
        ((c == d) = true ↔ c = d) := by
  refine ⟨fun c w => ?_, fun c w h => ?_, fun v w c d hc hd => ?_⟩
  · rw [ofBase64_eq_ok_iff, Text.interspersed_iff (removeBlanks_toBase64 c)]
    refine and_congr_left fun _ => ⟨fun h => ⟨c.encoding, h⟩, ?_⟩
    rintro ⟨bytes, h⟩
    rw [encoding_of_ofEncoding h]
    exact h
  · rw [(ofBase64_eq_ok_iff.mp h).2, String.ofList_toList]
  · obtain ⟨hc, hv⟩ := ofBase64_eq_ok_iff.mp hc
    obtain ⟨hd, hw⟩ := ofBase64_eq_ok_iff.mp hd
    have hcompare : (c == d) = true ↔ c = d := by
      rw [beq_def, beq_iff_eq]
      exact ⟨eq_of_encoding hc hd, congrArg encoding⟩
    refine ⟨?_, hcompare⟩
    rw [hv, hw, String.toList_inj]
    refine ⟨congrArg toBase64, fun h => eq_of_encoding hc hd ?_⟩
    rw [toBase64, toBase64] at h
    exact Base64.encodeString_inj.mp h

/-- The text of a certificate, in lines of blanks and with a wide blank before its padding. -/
def laidOut : String :=
  "\tMDwwMgIBATADBgEqMAAwGhcLMjQwMTAxMDAwMFoX\r\n\t" ++
    "CzQ5MTIzMTIzNTlaMAAwCDADBgEqAwEAMAMGASoDAQA\u2003=\n"

/-- The text of the same certificate in one line. -/
def inOneLine : String :=
  "MDwwMgIBATADBgEqMAAwGhcLMjQwMTAxMDAwMFoXCzQ5MTIzMTIzNTlaMAAwCDADBgEqAwEAMAMGASoDAQA="

theorem laidOut_read_as_inOneLine :
    ∃ c, ofBase64 laidOut = .ok c ∧ ofBase64 inOneLine = .ok c ∧ c.toBase64 = inOneLine := by
  have hseen : (ofBase64 inOneLine).toOption.map toBase64 = some inOneLine := by decide +kernel
  obtain ⟨c, hc, htext⟩ := exists_eq_ok hseen
  have hlaidOut : Text.Interspersed c.toBase64.toList laidOut.toList := by
    rw [Text.interspersed_iff (removeBlanks_toBase64 c), htext]
    decide +kernel
  obtain ⟨hmade, -⟩ := (text_unique_up_to_blanks.1 c inOneLine).mp hc
  exact ⟨c, (text_unique_up_to_blanks.1 c laidOut).mpr ⟨hmade, hlaidOut⟩, hc, htext⟩

end Certificate

end AnchoredMetadata
