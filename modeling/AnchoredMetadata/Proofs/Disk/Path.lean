import AnchoredMetadata.Disk.Path
import AnchoredMetadata.Proofs.Text.Utf8

/-!
# Paths, their texts and their endings

A path is text if its bytes are those of a text, which is then the only one. What a path ends in is
also the end of its last piece, as long as there is no slash in it.
-/

namespace AnchoredMetadata.Disk.Path

/-! ## Texts -/

theorem text?_ofText (s : String) : (ofText s).text? = some s := by
  rw [text?, ofText, Text.utf8, Text.utf8Decode?_utf8Encode, Option.map_some, String.ofList_toList]

theorem eq_ofText_of_text? {p : Path} {s : String} (h : p.text? = some s) : p = ofText s := by
  obtain ⟨cs, hdecode, rfl⟩ := Option.map_eq_some_iff.mp h
  rw [ofText, Text.utf8, String.toList_ofList, Text.utf8Encode_of_utf8Decode? hdecode]

/-! ## Endings -/

theorem splitAt_of_not_mem {separator : UInt8} {bytes : List UInt8} (h : separator ∉ bytes) :
    splitAt separator bytes = [bytes] := by
  induction bytes with
  | nil => rfl
  | cons b bytes ih =>
    simp only [List.mem_cons, not_or] at h
    rw [splitAt, if_neg (Ne.symm h.1), ih h.2]

/-- Bytes without a separator at the end go on with the last piece. -/
theorem exists_splitAt_append (separator : UInt8) (front : List UInt8) {ending : List UInt8}
    (h : separator ∉ ending) :
    ∃ before last, splitAt separator (front ++ ending) = before ++ [last ++ ending] := by
  induction front with
  | nil => exact ⟨[], [], splitAt_of_not_mem h⟩
  | cons b front ih =>
    obtain ⟨before, last, hsplit⟩ := ih
    rw [List.cons_append, splitAt, hsplit]
    by_cases hb : b = separator
    · exact ⟨[] :: before, last, if_pos hb⟩
    · rw [if_neg hb]
      cases before with
      | nil => exact ⟨[], b :: last, rfl⟩
      | cons piece before => exact ⟨(b :: piece) :: before, last, rfl⟩

theorem splitName_dot {stem ending : List UInt8} (hstem : stem ≠ []) (h : dot ∉ ending) :
    splitName (stem ++ dot :: ending) = (stem, some ending) := by
  have hplain : ∀ b ∈ ending.reverse, decide (b ≠ dot) = true := by
    intro b hb
    exact decide_eq_true fun heq => h (heq ▸ List.mem_reverse.mp hb)
  have hreverse : (stem ++ dot :: ending).reverse = ending.reverse ++ dot :: stem.reverse := by
    simp
  have htake : (ending.reverse ++ dot :: stem.reverse).takeWhile (· ≠ dot) = ending.reverse := by
    rw [List.takeWhile_append_of_pos hplain]
    simp
  have hdrop : (ending.reverse ++ dot :: stem.reverse).dropWhile (· ≠ dot) =
      dot :: stem.reverse := by
    rw [List.dropWhile_append_of_pos hplain]
    simp
  rw [splitName, hreverse, htake, hdrop]
  split
  · next heq => cases heq
  · next heq => exact absurd (List.reverse_eq_nil_iff.mp (List.cons.inj heq).2) hstem
  · next heq =>
    obtain rfl := (List.cons.inj heq).2
    simp

/-- The last piece of a path is a name, and not one that stays or leads upwards. -/
structure EndsInName (p : Path) (name : Name) : Prop where
  /-- It is the last piece. -/
  last : p.pieces = p.pieces.dropLast ++ [name]
  /-- It does not stay. -/
  moves : stays name = false
  /-- It does not lead upwards. -/
  down : name ≠ above

theorem EndsInName.name?_eq {p : Path} {name : Name} (h : p.EndsInName name) :
    p.name? = some name := by
  have htrimmed : p.trimmed = name :: p.pieces.dropLast.reverse := by
    rw [trimmed, h.last]
    simp [h.moves]
  rw [name?, htrimmed]
  exact if_neg h.down

theorem EndsInName.bytes_ne_nil {p : Path} {name : Name} (h : p.EndsInName name) :
    p.bytes ≠ [] := by
  intro hnil
  have hpieces : p.pieces = [[]] := by
    rw [pieces, hnil]
    rfl
  have hlast := h.last
  rw [hpieces] at hlast
  obtain rfl : [] = name := (List.cons.inj hlast).1
  exact absurd h.moves (by decide)

/-- A path that ends in an extension ends in a name with the extension. -/
theorem exists_endsInName {p : Path} {ending : List UInt8} (hne : ending ≠ [])
    (hslash : slash ∉ dot :: ending) (hdot : dot ∉ ending) (h : dot :: ending <:+ p.bytes) :
    ∃ stem, p.EndsInName (stem ++ dot :: ending) := by
  obtain ⟨front, hbytes⟩ := h
  obtain ⟨before, stem, hsplit⟩ := exists_splitAt_append slash front hslash
  have hpositive : 0 < ending.length := List.length_pos_iff.mpr hne
  refine ⟨stem, ?_, ?_, ?_⟩
  · rw [pieces, ← hbytes, hsplit]
    simp
  · rw [stays, Bool.or_eq_false_iff]
    refine ⟨by simp, decide_eq_false fun heq => ?_⟩
    have hlength := congrArg List.length heq
    rw [List.length_append, List.length_cons] at hlength
    have hone : here.length = 1 := rfl
    omega
  · intro heq
    have hlength := congrArg List.length heq
    rw [List.length_append, List.length_cons] at hlength
    have htwo : above.length = 2 := rfl
    -- two dots would leave a dot for the ending
    have hnil : stem = [] := List.eq_nil_of_length_eq_zero (by omega)
    rw [hnil] at heq
    exact hdot ((List.cons.inj heq).2 ▸ List.mem_cons_self)

theorem EndsInName.extension?_eq {p : Path} {stem ending : List UInt8}
    (h : p.EndsInName (stem ++ dot :: ending)) (hstem : stem ≠ []) (hdot : dot ∉ ending) :
    p.extension? = some ending := by
  rw [extension?, h.name?_eq, Option.bind_some, splitName_dot hstem hdot]

end AnchoredMetadata.Disk.Path
