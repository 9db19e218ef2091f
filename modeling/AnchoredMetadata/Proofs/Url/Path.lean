import AnchoredMetadata.Proofs.Url.Percent
import AnchoredMetadata.Url

/-!
# Paths read back

A path that was read has at least one part, and no part of it is split, encoded or resolved again.
Written parts with these properties read back as themselves.
-/

namespace AnchoredMetadata.Url

theorem keepsEncoded_path : KeepsEncoded reservedInPath := by decide

/-- A part of a path that is read as it is written. -/
structure IsPart (part : List Char) : Prop where
  /-- It needs no encoding. -/
  plain : ∀ c ∈ part, IsPlain reservedInPath c
  /-- It is not split. -/
  whole : '/' ∉ part ∧ '\\' ∉ part
  /-- It is not resolved. -/
  named : isSingleDot part = false ∧ isDoubleDot part = false

/-- The parts of a path that was read. -/
structure AreParts (parts : List (List Char)) : Prop where
  /-- There is a part. -/
  ne_nil : parts ≠ []
  /-- Each is read as it is written. -/
  each : ∀ part ∈ parts, IsPart part

theorem isPart_nil : IsPart [] := ⟨nofun, ⟨nofun, nofun⟩, ⟨rfl, rfl⟩⟩

/-! ## Reading -/

theorem splitPath_ne_nil (kind : SchemeKind) (cs : List Char) : splitPath kind cs ≠ [] := by
  fun_cases splitPath kind cs <;> exact List.cons_ne_nil _ _

theorem splitPath_whole (cs : List Char) :
    ∀ part ∈ splitPath .web cs, '/' ∉ part ∧ '\\' ∉ part := by
  fun_induction splitPath .web cs with
  | case1 => exact List.forall_mem_singleton.mpr ⟨nofun, nofun⟩
  | case2 c rest hslash ih => exact List.forall_mem_cons.mpr ⟨⟨nofun, nofun⟩, ih⟩
  | case3 c rest hother part parts hparts ih =>
    rw [hparts] at ih
    obtain ⟨⟨hslash, hback⟩, hrest⟩ := List.forall_mem_cons.mp ih
    refine List.forall_mem_cons.mpr ⟨?_, hrest⟩
    simp only [SchemeKind.isSpecial, Bool.true_and, Bool.or_eq_true, decide_eq_true_eq,
      not_or] at hother
    simp only [List.mem_cons, not_or]
    exact ⟨⟨Ne.symm hother.1, hslash⟩, ⟨Ne.symm hother.2, hback⟩⟩
  | case4 c rest hother hnil => exact absurd hnil (splitPath_ne_nil .web rest)

/-- Encoding a part does not make it one that is split. -/
theorem percentEncode_whole {part : List Char} (h : '/' ∉ part ∧ '\\' ∉ part) :
    '/' ∉ percentEncode reservedInPath part ∧ '\\' ∉ percentEncode reservedInPath part := by
  have hdigit : ∀ n < 16, '/' ≠ Text.hexDigitUpper n ∧ '\\' ≠ Text.hexDigitUpper n := by decide
  constructor
  · intro hmem
    rcases percentEncode_cases hmem with ⟨hpart, -⟩ | heq | ⟨n, hn, heq⟩
    · exact h.1 hpart
    · exact absurd heq (by decide)
    · exact (hdigit n hn).1 heq
  · intro hmem
    rcases percentEncode_cases hmem with ⟨hpart, -⟩ | heq | ⟨n, hn, heq⟩
    · exact h.2 hpart
    · exact absurd heq (by decide)
    · exact (hdigit n hn).2 heq

theorem mem_of_mem_leaveSegment {part : List Char} {done : List (List Char)}
    (h : part ∈ leaveSegment done) : part ∈ done := by
  cases done with
  | nil => exact h
  | cons first above =>
    rw [leaveSegment] at h
    split at h
    · exact h
    · exact List.mem_cons_of_mem first h

/-- The parts that are left are empty or stand for themselves. -/
theorem resolveDots_each {P : List Char → Prop} (hempty : P []) {done parts : List (List Char)}
    (hdone : ∀ part ∈ done, P part)
    (hparts : ∀ part ∈ parts, isSingleDot part = false → isDoubleDot part = false → P part) :
    ∀ part ∈ resolveDots done parts, P part := by
  induction parts generalizing done with
  | nil => exact hdone
  | cons part parts ih =>
    obtain ⟨hpart, hrest⟩ := List.forall_mem_cons.mp hparts
    have hleave : ∀ other ∈ leaveSegment done, P other :=
      fun other hother => hdone other (mem_of_mem_leaveSegment hother)
    rw [resolveDots]
    refine ih ?_ hrest
    split
    · split
      · exact List.forall_mem_cons.mpr ⟨hempty, hleave⟩
      · exact hleave
    · split
      · split
        · exact List.forall_mem_cons.mpr ⟨hempty, hdone⟩
        · exact hdone
      · next hdouble hsingle =>
        exact List.forall_mem_cons.mpr ⟨hpart (Bool.eq_false_iff.mpr hsingle)
          (Bool.eq_false_iff.mpr hdouble), hdone⟩

/-- The last part is kept, or stands for an empty one. -/
theorem resolveDots_ne_nil {parts : List (List Char)} (h : parts ≠ []) (done : List (List Char)) :
    resolveDots done parts ≠ [] := by
  induction parts generalizing done with
  | nil => exact absurd rfl h
  | cons part parts ih =>
    rw [resolveDots]
    cases parts with
    | nil =>
      rw [resolveDots, List.isEmpty_nil, if_pos rfl, if_pos rfl]
      split
      · exact List.cons_ne_nil _ _
      · split <;> exact List.cons_ne_nil _ _
    | cons next rest => exact ih (List.cons_ne_nil next rest) _

/-- The web's schemes always have a path. -/
theorem readPath_web (cs : List Char) :
    readPath .web cs = .segments (readSegments .web (dropSlash .web cs)) := by
  have hspecial : (cs.isEmpty && !SchemeKind.web.isSpecial) = false := Bool.and_false _
  rw [readPath, hspecial, if_neg Bool.false_ne_true]

theorem areParts_readSegments (cs : List Char) : AreParts (readSegments .web cs) := by
  have hraw : (splitPath .web cs).map (percentEncode reservedInPath) ≠ [] :=
    mt List.map_eq_nil_iff.mp (splitPath_ne_nil .web cs)
  have hne := resolveDots_ne_nil hraw []
  refine ⟨mt List.reverse_eq_nil_iff.mp hne, fun part hpart => ?_⟩
  refine resolveDots_each isPart_nil (List.forall_mem_nil _)
    (List.forall_mem_map.mpr fun raw hraw hsingle hdouble => ?_) part (List.mem_reverse.mp hpart)
  exact ⟨isPlain_percentEncode keepsEncoded_path raw,
    percentEncode_whole (splitPath_whole cs raw hraw), hsingle, hdouble⟩

/-! ## Reading back -/

theorem splitPath_append {part : List Char} (h : '/' ∉ part ∧ '\\' ∉ part) {rest first : List Char}
    {others : List (List Char)} (hrest : splitPath .web rest = first :: others) :
    splitPath .web (part ++ rest) = (part ++ first) :: others := by
  induction part with
  | nil => exact hrest
  | cons c part ih =>
    simp only [List.mem_cons, not_or] at h
    have hother : ¬ (c = '/' || (SchemeKind.web.isSpecial && c = '\\')) = true := by
      simp only [SchemeKind.isSpecial, Bool.true_and, Bool.or_eq_true, decide_eq_true_eq, not_or]
      exact ⟨Ne.symm h.1.1, Ne.symm h.2.1⟩
    rw [List.cons_append, splitPath, if_neg hother, ih ⟨h.1.2, h.2.2⟩]
    rfl

/-- Parts that are written are split again. -/
theorem splitPath_written {part : List Char} {parts : List (List Char)}
    (h : ∀ other ∈ part :: parts, '/' ∉ other ∧ '\\' ∉ other) :
    splitPath .web (part ++ (Path.segments parts).text) = part :: parts := by
  induction parts generalizing part with
  | nil =>
    have hnil : splitPath .web [] = [[]] := rfl
    have hpart := splitPath_append (h part List.mem_cons_self) hnil
    rw [List.append_nil] at hpart
    rw [Path.text, List.flatMap_nil, List.append_nil]
    exact hpart
  | cons next parts ih =>
    obtain ⟨hpart, hparts⟩ := List.forall_mem_cons.mp h
    have hnext : splitPath .web (Path.segments (next :: parts)).text = [] :: next :: parts := by
      rw [Path.text, List.flatMap_cons, List.cons_append, splitPath, if_pos (by decide)]
      exact congrArg ([] :: ·) (ih hparts)
    rw [splitPath_append hpart hnext, List.append_nil]

theorem resolveDots_named {parts : List (List Char)}
    (h : ∀ part ∈ parts, isSingleDot part = false ∧ isDoubleDot part = false)
    (done : List (List Char)) : resolveDots done parts = parts.reverse ++ done := by
  induction parts generalizing done with
  | nil => rfl
  | cons part parts ih =>
    obtain ⟨⟨hsingle, hdouble⟩, hparts⟩ := List.forall_mem_cons.mp h
    rw [resolveDots, hsingle, hdouble, if_neg Bool.false_ne_true, if_neg Bool.false_ne_true,
      ih hparts, List.reverse_cons, List.append_assoc, List.singleton_append]

theorem readPath_text {parts : List (List Char)} (h : AreParts parts) :
    readPath .web (Path.segments parts).text = .segments parts := by
  obtain ⟨part, rest, rfl⟩ := List.exists_cons_of_ne_nil h.ne_nil
  have hencoded : (part :: rest).map (percentEncode reservedInPath) = part :: rest :=
    (List.map_congr_left fun other hother => percentEncode_plain (h.each other hother).plain).trans
      (List.map_id _)
  have hsegments : readSegments .web (part ++ (Path.segments rest).text) = part :: rest := by
    rw [readSegments, splitPath_written fun other hother => (h.each other hother).whole, hencoded,
      resolveDots_named fun other hother => (h.each other hother).named, List.append_nil,
      List.reverse_reverse]
  rw [readPath_web, Path.text, List.flatMap_cons]
  exact congrArg Path.segments hsegments

end AnchoredMetadata.Url
