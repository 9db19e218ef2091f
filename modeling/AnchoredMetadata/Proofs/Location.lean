import AnchoredMetadata.Location
import AnchoredMetadata.Proofs.Url.Percent
import Mathlib.Logic.Function.Defs

/-!
# Segments and the identifiers they stand for

A form value can be decoded, and so can the segment of an entity once a tilde in
front is dropped, since no form value starts with one. So the segment of an
entity is never dropped or resolved in a path, and no two entities have the same.
-/

namespace AnchoredMetadata

/-! ## Digits and bytes -/

namespace Text

theorem hexValue?_hexDigitUpper : ∀ n < 16, hexValue? (hexDigitUpper n) = some n := by decide

theorem utf8_inj {s t : String} : utf8 s = utf8 t ↔ s = t :=
  utf8Encode_inj.trans String.toList_inj

end Text

/-! ## Form values -/

namespace Url

/-- A byte that stands for itself is written as a letter, a digit or one of four marks. -/
theorem asciiChar_of_isFormByte {b : UInt8} (h : isFormByte b = true) :
    ((asciiChar b).isAlphanum = true ∨ asciiChar b ∈ ['*', '-', '.', '_']) ∧
      (asciiChar b).toNat < 128 ∧ UInt8.ofNat (asciiChar b).toNat = b := by
  have hall : ∀ n < 256, isFormByte (UInt8.ofNat n) = true →
      ((asciiChar (UInt8.ofNat n)).isAlphanum = true ∨
          asciiChar (UInt8.ofNat n) ∈ ['*', '-', '.', '_']) ∧
        (asciiChar (UInt8.ofNat n)).toNat < 128 ∧
          UInt8.ofNat (asciiChar (UInt8.ofNat n)).toNat = UInt8.ofNat n := by
    decide +kernel
  have hb := hall b.toNat b.toNat_lt
  rw [UInt8.ofNat_toNat] at hb
  exact hb h

/-- A character that is neither a plus nor a percent sign is decoded by itself. -/
theorem formDecode?_cons {c : Char} (hplus : c ≠ '+') (hpercent : c ≠ '%') (hc : c.toNat < 128)
    (rest : List Char) :
    formDecode? (c :: rest) = (formDecode? rest).map (UInt8.ofNat c.toNat :: ·) := by
  have hrefused : ¬ (c = '%' || 128 ≤ c.toNat) = true := by
    rw [Bool.or_eq_true, decide_eq_true_eq, decide_eq_true_eq, not_or]
    exact ⟨hpercent, by omega⟩
  rw [formDecode?, if_neg hrefused]
  · exact hplus
  · intro a b later he
    exact absurd he hpercent

/-- A percent sign is decoded with the two digits after it. -/
theorem formDecode?_percentByte (b : UInt8) (rest : List Char) :
    formDecode? (percentByte b ++ rest) = (formDecode? rest).map (b :: ·) := by
  have hb := b.toNat_lt
  have hhigh := Text.hexValue?_hexDigitUpper (b.toNat / 16) (by omega)
  have hlow := Text.hexValue?_hexDigitUpper (b.toNat % 16) (by omega)
  have hvalue : b.toNat / 16 * 16 + b.toNat % 16 = b.toNat := Nat.div_add_mod' b.toNat 16
  simp only [percentByte, List.cons_append, List.nil_append, formDecode?, hhigh, hlow,
    Option.bind_eq_bind, Option.bind_some, hvalue, UInt8.ofNat_toNat]
  cases formDecode? rest <;> rfl

theorem formDecode?_formByte (b : UInt8) (rest : List Char) :
    formDecode? (formByte b ++ rest) = (formDecode? rest).map (b :: ·) := by
  unfold formByte
  by_cases hform : isFormByte b = true
  · obtain ⟨hplain, hlt, hback⟩ := asciiChar_of_isFormByte hform
    have hplus : asciiChar b ≠ '+' := by
      intro he
      rw [he] at hplain
      exact absurd hplain (by decide)
    have hpercent : asciiChar b ≠ '%' := by
      intro he
      rw [he] at hplain
      exact absurd hplain (by decide)
    rw [if_pos hform, List.singleton_append, formDecode?_cons hplus hpercent hlt, hback]
  · rw [if_neg hform]
    by_cases hspace : b = 32
    · rw [if_pos hspace, hspace, List.singleton_append, formDecode?]
    · rw [if_neg hspace]
      exact formDecode?_percentByte b rest

/-- Decoding gives back what was encoded. -/
theorem formDecode?_formEncode (bytes : List UInt8) :
    formDecode? (formEncode bytes) = some bytes := by
  induction bytes with
  | nil => rfl
  | cons b rest ih =>
    rw [formEncode, List.flatMap_cons, formDecode?_formByte, ← formEncode, ih, Option.map_some]

/-- A form value is written with letters, digits and six marks, among which there is no tilde. -/
theorem mem_formEncode {bytes : List UInt8} {c : Char} (h : c ∈ formEncode bytes) :
    c.isAlphanum = true ∨ c ∈ ['*', '-', '.', '_', '+', '%'] := by
  obtain ⟨b, _, hc⟩ := List.mem_flatMap.mp h
  unfold formByte at hc
  split at hc
  · next hform =>
    obtain rfl := List.mem_singleton.mp hc
    rcases (asciiChar_of_isFormByte hform).1 with hletter | hmark
    · exact Or.inl hletter
    · exact Or.inr (List.mem_append_left ['+', '%'] hmark)
  · split at hc
    · obtain rfl := List.mem_singleton.mp hc
      exact Or.inr (by decide)
    · have hb := b.toNat_lt
      simp only [percentByte, List.mem_cons, List.not_mem_nil, or_false] at hc
      rcases hc with rfl | rfl | rfl
      · exact Or.inr (by decide)
      · exact Or.inl (Text.isAlphanum_hexDigitUpper _ (by omega))
      · exact Or.inl (Text.isAlphanum_hexDigitUpper _ (by omega))

theorem tilde_not_mem_formEncode (bytes : List UInt8) : '~' ∉ formEncode bytes := by
  intro h
  exact absurd (mem_formEncode h) (by decide)

end Url

/-! ## Segments -/

namespace Location

/-- A text that a path keeps as one segment, written with characters that stand for themselves. -/
structure IsSegment (s : String) : Prop where
  /-- It is not dropped. -/
  nonempty : s ≠ ""
  /-- It does not stand for the place where it is. -/
  ne_dot : s ≠ "."
  /-- It does not stand for the place above. -/
  ne_dots : s ≠ ".."
  /-- It holds letters, digits and seven marks. -/
  characters : ∀ c ∈ s.toList,
    c.isAlphanum = true ∨ c ∈ ['*', '-', '.', '_', '+', '%', '~']

/-- A segment is a form value, with a tilde in front where a path would not keep it. -/
theorem segment_cases (id : String) :
    let encoded := Url.formEncode (Text.utf8 id)
    segment id = '~' :: encoded ∨ segment id = encoded ∧ isReserved encoded = false := by
  intro encoded
  unfold segment
  cases h : isReserved encoded with
  | true => exact Or.inl (if_pos h)
  | false => exact Or.inr ⟨if_neg (by rw [h]; exact Bool.false_ne_true), rfl⟩

theorem isReserved_segment (id : String) : isReserved (segment id) = false := by
  rcases segment_cases id with h | ⟨h, hfree⟩
  · rw [h]
    rfl
  · rw [h, hfree]

/-- The segment of an entity stands for its identifier. -/
theorem identifierBytes?_segment (id : String) :
    identifierBytes? (segment id) = some (Text.utf8 id) := by
  have hdecode := Url.formDecode?_formEncode (Text.utf8 id)
  rcases segment_cases id with h | ⟨h, _⟩
  · rw [h, identifierBytes?, hdecode]
  · rw [h, identifierBytes?, hdecode]
    intro encoded he
    apply Url.tilde_not_mem_formEncode (Text.utf8 id)
    rw [he]
    exact List.mem_cons_self

theorem isSegment_resource (id : String) : IsSegment (resource id) := by
  have hfree := isReserved_segment id
  have hne (s : String) (hs : isReserved s.toList = true) : resource id ≠ s := by
    rintro rfl
    rw [resource, String.toList_ofList, hfree] at hs
    exact absurd hs Bool.false_ne_true
  refine ⟨hne "" rfl, hne "." rfl, hne ".." rfl, ?_⟩
  intro c hc
  rw [resource, String.toList_ofList] at hc
  have hencoded (h : c ∈ Url.formEncode (Text.utf8 id)) :
      c.isAlphanum = true ∨ c ∈ ['*', '-', '.', '_', '+', '%', '~'] :=
    (Url.mem_formEncode h).imp_right (List.mem_append_left ['~'])
  rcases segment_cases id with h | ⟨h, _⟩
  · rw [h] at hc
    rcases List.mem_cons.mp hc with rfl | hc
    · exact Or.inr (by decide)
    · exact hencoded hc
  · rw [h] at hc
    exact hencoded hc

/-- The resource of an entity is a segment that a path keeps, it stands for the bytes of the
identifier, and no other entity has it. -/
theorem resource_represents :
    (∀ id, IsSegment (resource id) ∧
      identifierBytes? (resource id).toList = some (Text.utf8 id)) ∧
    Function.Injective resource := by
  refine ⟨fun id => ⟨isSegment_resource id, ?_⟩, ?_⟩
  · rw [resource, String.toList_ofList]
    exact identifierBytes?_segment id
  · intro id other h
    have hsegment : segment id = segment other := String.ofList_inj.mp h
    have hbytes := identifierBytes?_segment id
    rw [hsegment, identifierBytes?_segment other] at hbytes
    exact (Text.utf8_inj.mp (Option.some.inj hbytes)).symm

example : resource "~." = "%7E." ∧ resource "." = "~." := by decide

end Location

end AnchoredMetadata
