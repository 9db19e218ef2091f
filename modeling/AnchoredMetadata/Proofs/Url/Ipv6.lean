import AnchoredMetadata.Proofs.Url.Ipv4

/-!
# Addresses of version 6 read back

An address of version 6 is eight pieces of sixteen bits. Reading gives such pieces only, and what is
written for them, with the longest run of zeros as two colons, is read as the same pieces.
-/

namespace AnchoredMetadata.Url

/-! ## Pieces that are read -/

/-- Eight pieces of sixteen bits. -/
structure IsAddress (pieces : List Nat) : Prop where
  /-- There are eight of them. -/
  length : pieces.length = 8
  /-- Each has sixteen bits. -/
  small : ∀ p ∈ pieces, p < 2 ^ 16

/-- Pieces before two colons and after them. -/
def ArePieces (read : List Nat × Option (List Nat)) : Prop :=
  (∀ p ∈ read.1, p < 2 ^ 16) ∧ ∀ later, read.2 = some later → ∀ p ∈ later, p < 2 ^ 16

/-- More pieces, after the two colons if they were read. -/
def added (before : List Nat) (after : Option (List Nat)) (more : List Nat) :
    List Nat × Option (List Nat) :=
  match after with
  | none => (before ++ more, none)
  | some later => (before, some (later ++ more))

theorem arePieces_added {before more : List Nat} {after : Option (List Nat)}
    (h : ArePieces (before, after)) (hmore : ∀ p ∈ more, p < 2 ^ 16) :
    ArePieces (added before after more) := by
  cases after with
  | none => exact ⟨List.forall_mem_append.mpr ⟨h.1, hmore⟩, nofun⟩
  | some later =>
    refine ⟨h.1, ?_⟩
    rintro _ ⟨⟩
    exact List.forall_mem_append.mpr ⟨h.2 later rfl, hmore⟩

theorem hexRun_length (count : Nat) (cs : List Char) : (hexRun count cs).1.length ≤ count := by
  fun_induction hexRun count cs with
  | case1 => exact Nat.le_refl 0
  | case2 => exact Nat.zero_le _
  | case3 count c rest hdigit digits left heq ih =>
    rw [heq] at ih
    exact Nat.succ_le_succ ih
  | case4 => exact Nat.zero_le _

theorem hexRun_value {cs digits rest : List Char} (h : hexRun 4 cs = (digits, rest)) :
    ∀ p ∈ [(digitsValue? 16 digits).getD 0], p < 2 ^ 16 := by
  have hlength := hexRun_length 4 cs
  rw [h] at hlength
  rw [List.forall_mem_singleton]
  cases hvalue : digitsValue? 16 digits with
  | none => decide
  | some n =>
    calc n < 16 ^ digits.length := digitsValue?_lt hvalue
      _ ≤ 16 ^ 4 := Nat.pow_le_pow_right (by decide) hlength
      _ = 2 ^ 16 := rfl

theorem byteNumber?_le {cs rest : List Char} {n : Nat} (h : byteNumber? cs = some (n, rest)) :
    n ≤ 255 := by
  unfold byteNumber? at h
  simp only at h
  split at h
  · split at h
    · cases h
    · next hother =>
      cases h
      simp only [Bool.or_eq_true, decide_eq_true_eq, not_or, Nat.not_lt] at hother
      exact hother.1.2
  · cases h

theorem ipv4Pieces?_small {cs : List Char} {pieces : List Nat} (h : ipv4Pieces? cs = some pieces) :
    ∀ p ∈ pieces, p < 2 ^ 16 := by
  unfold ipv4Pieces? at h
  obtain ⟨⟨a, rest⟩, ha, h⟩ := Option.bind_eq_some_iff.mp h
  simp only at h
  split at h
  · obtain ⟨⟨b, rest⟩, hb, h⟩ := Option.bind_eq_some_iff.mp h
    simp only at h
    split at h
    · obtain ⟨⟨c, rest⟩, hc, h⟩ := Option.bind_eq_some_iff.mp h
      simp only at h
      split at h
      · obtain ⟨⟨d, rest⟩, hd, h⟩ := Option.bind_eq_some_iff.mp h
        simp only at h
        split at h
        · obtain rfl := Option.some.inj h
          have ha := byteNumber?_le ha
          have hb := byteNumber?_le hb
          have hc := byteNumber?_le hc
          have hd := byteNumber?_le hd
          exact List.forall_mem_cons.mpr ⟨by omega, List.forall_mem_singleton.mpr (by omega)⟩
        · cases h
      · cases h
    · cases h
  · cases h

theorem ipv6Pieces?_small {fuel : Nat} {before : List Nat} {after : Option (List Nat)}
    {cs : List Char} {read : List Nat × Option (List Nat)} (hpieces : ArePieces (before, after))
    (h : ipv6Pieces? fuel before after cs = some read) : ArePieces read := by
  fun_induction ipv6Pieces? fuel before after cs with
  | case2 =>
    obtain rfl := Option.some.inj h
    exact hpieces
  | case5 fuel before after cs count _ _ ih =>
    refine ih ⟨hpieces.1, ?_⟩ h
    rintro _ ⟨⟩
    exact nofun
  | case6 fuel before after c cs count add _ _ digits value hrun =>
    obtain rfl := Option.some.inj h
    exact arePieces_added hpieces (hexRun_value hrun)
  | case8 =>
    obtain ⟨more, hmore, rfl⟩ := Option.map_eq_some_iff.mp h
    exact arePieces_added hpieces (ipv4Pieces?_small hmore)
  | case10 fuel before after c cs count add _ _ digits value rest _ before' after' hadd hrun ih =>
    refine ih ?_ h
    rw [← hadd]
    exact arePieces_added hpieces (hexRun_value hrun)
  | case1 | case3 | case4 | case7 | case9 | case11 => cases h

theorem isAddress_ipv6Filled? {read : List Nat × Option (List Nat)} (hread : ArePieces read)
    {pieces : List Nat} (h : ipv6Filled? read = some pieces) : IsAddress pieces := by
  obtain ⟨before, _ | later⟩ := read
  · rw [ipv6Filled?] at h
    split at h
    · next height =>
      obtain rfl := Option.some.inj h
      exact ⟨height, hread.1⟩
    · cases h
  · rw [ipv6Filled?] at h
    split at h
    · next hless =>
      obtain rfl := Option.some.inj h
      refine ⟨?_, ?_⟩
      · simp only [List.length_append, List.length_replicate]
        omega
      · refine List.forall_mem_append.mpr ⟨List.forall_mem_append.mpr ⟨hread.1, fun p hp => ?_⟩,
          hread.2 later rfl⟩
        rw [List.eq_of_mem_replicate hp]
        decide
    · cases h

theorem isAddress_ipv6? {cs : List Char} {pieces : List Nat} (h : ipv6? cs = some pieces) :
    IsAddress pieces := by
  obtain ⟨⟨after, rest⟩, hstart, h⟩ := Option.bind_eq_some_iff.mp h
  obtain ⟨read, hread, h⟩ := Option.bind_eq_some_iff.mp h
  refine isAddress_ipv6Filled? (ipv6Pieces?_small ⟨List.forall_mem_nil _, ?_⟩ hread) h
  unfold ipv6Start? at hstart
  split at hstart <;> cases hstart
  · rintro _ ⟨⟩
    exact nofun
  · exact nofun

/-! ## Pieces that are written -/

/-- The text of a piece can be told from a colon. -/
theorem exists_head_piece (p : Nat) :
    ∃ c rest, c ≠ ':' ∧ Nat.toDigits 16 p = c :: rest := by
  obtain ⟨c, rest, heq⟩ := List.exists_cons_of_ne_nil (Nat.toDigits_ne_nil (n := p) (b := 16))
  obtain ⟨d, hd, rfl⟩ := Text.exists_digit_of_mem (by decide) (heq ▸ List.mem_cons_self)
  have hcolon : ∀ d < 16, d.digitChar ≠ ':' := by decide
  exact ⟨d.digitChar, rest, hcolon d hd, heq⟩

theorem hexRun_append {count : Nat} {digits rest : List Char} (hlength : digits.length ≤ count)
    (hdigits : ∀ c ∈ digits, (Text.hexValue? c).isSome = true)
    (hrest : ∀ c more, rest = c :: more → (Text.hexValue? c).isSome = false) :
    hexRun count (digits ++ rest) = (digits, rest) := by
  induction digits generalizing count with
  | nil =>
    fun_cases hexRun count rest with
    | case1 | case2 | case4 => rfl
    | case3 count c more hdigit =>
      rw [hrest c more rfl] at hdigit
      cases hdigit
  | cons c digits ih =>
    obtain ⟨hc, hdigits⟩ := List.forall_mem_cons.mp hdigits
    cases count with
    | zero => exact absurd hlength (Nat.not_succ_le_zero _)
    | succ count =>
      rw [List.cons_append, hexRun, if_pos hc, ih (Nat.le_of_succ_le_succ hlength) hdigits]

/-- The digits of a piece are read up to what follows it. -/
theorem hexRun_piece {p : Nat} (hp : p < 2 ^ 16) (rest : List Char)
    (hrest : ∀ c more, rest = c :: more → c = ':') :
    hexRun 4 (Nat.toDigits 16 p ++ rest) = (Nat.toDigits 16 p, rest) := by
  refine hexRun_append ((Nat.length_toDigits_le_iff (by decide) (by decide)).mpr hp) ?_ ?_
  · intro c hc
    obtain ⟨d, hd, rfl⟩ := Text.exists_digit_of_mem (by decide) hc
    rw [Text.hexValue?_digitChar d hd]
    rfl
  · intro c more heq
    rw [hrest c more heq]
    rfl

/-- How many pieces were read; two colons count as one. -/
def readCount (before : List Nat) (after : Option (List Nat)) : Nat :=
  before.length + after.elim 0 fun later => later.length + 1

theorem ipv6Pieces?_last {p : Nat} (hp : p < 2 ^ 16) {before : List Nat} {after : Option (List Nat)}
    (hcount : readCount before after < 8) (fuel : Nat) :
    ipv6Pieces? (fuel + 1) before after (Nat.toDigits 16 p) = some (added before after [p]) := by
  obtain ⟨c, rest, hcolon, heq⟩ := exists_head_piece p
  have hrun := hexRun_piece hp [] nofun
  rw [List.append_nil, heq] at hrun
  have hvalue := digitsValue?_toDigits (show 1 < 16 by decide) (by decide) p
  rw [heq] at hvalue ⊢
  simp only [readCount] at hcount
  simp only [ipv6Pieces?, if_neg (Nat.not_le.mpr hcount), if_neg hcolon, hrun, hvalue, added]
  rfl

theorem ipv6Pieces?_more {p : Nat} (hp : p < 2 ^ 16) {before : List Nat} {after : Option (List Nat)}
    (hcount : readCount before after < 8) {rest : List Char} (hrest : rest ≠ []) (fuel : Nat) :
    ipv6Pieces? (fuel + 1) before after (Nat.toDigits 16 p ++ ':' :: rest) =
      ipv6Pieces? fuel (added before after [p]).1 (added before after [p]).2 rest := by
  obtain ⟨c, digits, hcolon, heq⟩ := exists_head_piece p
  have hrun := hexRun_piece hp (':' :: rest) fun c more h => (List.cons.inj h).1.symm
  have hvalue := digitsValue?_toDigits (show 1 < 16 by decide) (by decide) p
  rw [heq] at hvalue
  rw [heq, List.cons_append] at hrun ⊢
  simp only [readCount] at hcount
  simp only [ipv6Pieces?, if_neg (Nat.not_le.mpr hcount), if_neg hcolon, hrun, hvalue, added,
    List.isEmpty_eq_false_iff.mpr hrest]
  rfl

theorem readCount_added (before : List Nat) (after : Option (List Nat)) (more : List Nat) :
    readCount (added before after more).1 (added before after more).2 =
      readCount before after + more.length := by
  cases after with
  | none => simp only [readCount, added, Option.elim_none, Nat.add_zero, List.length_append]
  | some later =>
    simp only [readCount, added, Option.elim_some, List.length_append]
    omega

theorem added_added (before : List Nat) (after : Option (List Nat)) (p : Nat) (more : List Nat) :
    added (added before after [p]).1 (added before after [p]).2 more =
      added before after (p :: more) := by
  cases after <;> simp only [added, List.append_assoc, List.singleton_append]

theorem piecesText_cons (p q : Nat) (pieces : List Nat) :
    piecesText (p :: q :: pieces) = Nat.toDigits 16 p ++ ':' :: piecesText (q :: pieces) := by
  rw [piecesText, List.map_cons, List.map_cons, List.intercalate_cons_cons, ← List.map_cons,
    List.append_assoc]
  rfl

theorem piecesText_singleton (p : Nat) : piecesText [p] = Nat.toDigits 16 p :=
  List.intercalate_singleton

theorem piecesText_ne_nil (p : Nat) (pieces : List Nat) : piecesText (p :: pieces) ≠ [] := by
  cases pieces with
  | nil =>
    rw [piecesText_singleton]
    exact Nat.toDigits_ne_nil
  | cons q pieces =>
    rw [piecesText_cons]
    exact List.append_ne_nil_of_right_ne_nil _ (List.cons_ne_nil _ _)

/-- Pieces that are written are read up to the end. -/
theorem ipv6Pieces?_written {pieces : List Nat} (hsmall : ∀ p ∈ pieces, p < 2 ^ 16)
    {before : List Nat} {after : Option (List Nat)}
    (hcount : readCount before after + pieces.length ≤ 8) {fuel : Nat}
    (hfuel : pieces.length < fuel) :
    ipv6Pieces? fuel before after (piecesText pieces) = some (added before after pieces) := by
  induction pieces generalizing before after fuel with
  | nil =>
    obtain ⟨fuel, rfl⟩ := Nat.exists_eq_add_of_lt hfuel
    cases after <;> simp [piecesText, ipv6Pieces?, added]
  | cons p pieces ih =>
    obtain ⟨hp, hrest⟩ := List.forall_mem_cons.mp hsmall
    rw [List.length_cons] at hcount hfuel
    obtain ⟨fuel, rfl⟩ : ∃ f, fuel = f + 1 := ⟨fuel - 1, by omega⟩
    cases pieces with
    | nil =>
      rw [piecesText_singleton]
      exact ipv6Pieces?_last hp (by omega) fuel
    | cons q pieces =>
      rw [piecesText_cons, ipv6Pieces?_more hp (by omega) (piecesText_ne_nil q pieces),
        ih hrest (by rw [readCount_added, List.length_singleton]; omega) (by omega), added_added]

theorem ipv6Pieces?_colon {before : List Nat} (hcount : before.length < 8) (fuel : Nat)
    (rest : List Char) :
    ipv6Pieces? (fuel + 1) before none (':' :: rest) = ipv6Pieces? fuel before (some []) rest := by
  have hless : ¬ 8 ≤ before.length + (none : Option (List Nat)).elim 0 (fun l => l.length + 1) :=
    Nat.not_le.mpr hcount
  simp only [ipv6Pieces?, if_neg hless]
  rfl

/-- Two colons after pieces, and the pieces after them. -/
theorem ipv6Pieces?_colons {p : Nat} {pieces later : List Nat}
    (hsmall : ∀ q ∈ p :: pieces, q < 2 ^ 16) (hlater : ∀ q ∈ later, q < 2 ^ 16)
    {before : List Nat} (hcount : before.length + pieces.length + later.length ≤ 6) {fuel : Nat}
    (hfuel : pieces.length + later.length + 2 < fuel) :
    ipv6Pieces? fuel before none (piecesText (p :: pieces) ++ ':' :: ':' :: piecesText later) =
      some (before ++ p :: pieces, some later) := by
  induction pieces generalizing p before fuel with
  | nil =>
    obtain ⟨fuel, rfl⟩ : ∃ f, fuel = f + 2 := ⟨fuel - 2, by omega⟩
    have hread : readCount (before ++ [p]) (some []) + later.length ≤ 8 := by
      simp only [readCount, Option.elim_some, List.length_append, List.length_singleton,
        List.length_nil]
      omega
    rw [piecesText_singleton, ipv6Pieces?_more (hsmall p List.mem_cons_self)
      (by simp only [readCount, Option.elim_none]; omega) (List.cons_ne_nil _ _), added,
      ipv6Pieces?_colon (by rw [List.length_append, List.length_singleton]; omega),
      ipv6Pieces?_written hlater hread (by omega)]
    rfl
  | cons q pieces ih =>
    obtain ⟨hp, hrest⟩ := List.forall_mem_cons.mp hsmall
    rw [List.length_cons] at hcount hfuel
    obtain ⟨fuel, rfl⟩ : ∃ f, fuel = f + 1 := ⟨fuel - 1, by omega⟩
    rw [piecesText_cons, List.append_assoc, List.cons_append, ipv6Pieces?_more hp
      (by simp only [readCount, Option.elim_none]; omega)
      (List.append_ne_nil_of_right_ne_nil _ (List.cons_ne_nil _ _)), added,
      ih hrest (by rw [List.length_append, List.length_singleton]; omega) (by omega),
      List.append_assoc, List.singleton_append]

/-- Pieces and a colon start with the digits of a piece and a colon. -/
theorem exists_rest_piecesText (p : Nat) (pieces : List Nat) (tail : List Char) :
    ∃ rest, piecesText (p :: pieces) ++ ':' :: tail = Nat.toDigits 16 p ++ ':' :: rest := by
  cases pieces with
  | nil => exact ⟨tail, by rw [piecesText_singleton]⟩
  | cons q pieces =>
    exact ⟨piecesText (q :: pieces) ++ ':' :: tail, by
      rw [piecesText_cons, List.append_assoc, List.cons_append]⟩

theorem ipv6Start?_piece (p : Nat) (rest : List Char) :
    ipv6Start? (Nat.toDigits 16 p ++ ':' :: rest) =
      some (none, Nat.toDigits 16 p ++ ':' :: rest) := by
  obtain ⟨c, digits, hcolon, heq⟩ := exists_head_piece p
  obtain ⟨d, more, htail⟩ := List.exists_cons_of_ne_nil
    (List.append_ne_nil_of_right_ne_nil digits (List.cons_ne_nil ':' rest))
  rw [heq, List.cons_append, htail, ipv6Start?]
  · rintro _ ⟨⟩
    exact hcolon rfl
  · rintro _ ⟨⟩
    exact hcolon rfl
  · nofun
  · nofun

/-! ## Zeros -/

/-- The longest run is one of zeros. -/
theorem take_longestZeros (pieces : List Nat) :
    (pieces.drop (longestZeros pieces).1).take (longestZeros pieces).2 =
      List.replicate (longestZeros pieces).2 0 := by
  unfold longestZeros
  refine List.foldlRecOn (motive := fun run : Nat × Nat =>
    (pieces.drop run.1).take run.2 = List.replicate run.2 0) _ _ rfl fun best hbest run hrun => ?_
  split
  · obtain ⟨i, -, rfl⟩ := List.mem_map.mp hrun
    rw [← List.prefix_iff_eq_take.mp (List.takeWhile_prefix _)]
    refine List.eq_replicate_of_mem fun p hp => ?_
    exact of_decide_eq_true (List.all_eq_true.mp List.all_takeWhile p hp)
  · exact hbest

theorem length_le_piecesText (pieces : List Nat) : pieces.length ≤ (piecesText pieces).length := by
  induction pieces with
  | nil => exact Nat.zero_le _
  | cons p pieces ih =>
    have hdigits := Nat.length_toDigits_pos (b := 16) (n := p)
    cases pieces with
    | nil =>
      rw [piecesText_singleton]
      exact hdigits
    | cons q pieces =>
      simp only [piecesText_cons, List.length_append, List.length_cons] at ih ⊢
      omega

/-- Eight pieces without two colons are read. -/
theorem ipv6?_piecesText {pieces : List Nat} (h : IsAddress pieces) :
    ipv6? (piecesText pieces) = some pieces := by
  have hlength := h.length
  have hstart : ipv6Start? (piecesText pieces) = some (none, piecesText pieces) := by
    obtain _ | ⟨p, _ | ⟨q, pieces⟩⟩ := pieces
    · cases hlength
    · cases hlength
    · rw [piecesText_cons]
      exact ipv6Start?_piece p _
  have hread : ipv6Pieces? ((piecesText pieces).length + 1) [] none (piecesText pieces) =
      some (pieces, none) :=
    ipv6Pieces?_written h.small (by rw [hlength]; decide)
      (Nat.lt_succ_of_le (length_le_piecesText pieces))
  rw [ipv6?, hstart]
  exact (congrArg (·.bind ipv6Filled?) hread).trans (if_pos hlength)

/-- Pieces with two colons between them are read. -/
theorem ipv6?_colons {front later : List Nat} (hfront : ∀ p ∈ front, p < 2 ^ 16)
    (hlater : ∀ p ∈ later, p < 2 ^ 16) (hlength : front.length + later.length < 8) :
    ipv6? (piecesText front ++ ':' :: ':' :: piecesText later) =
      some (front ++ List.replicate (8 - front.length - later.length) 0 ++ later) := by
  have hfuel := length_le_piecesText later
  cases front with
  | nil =>
    have hread : ipv6Pieces? ((':' :: ':' :: piecesText later).length + 1) [] (some [])
        (piecesText later) = some ([], some later) := by
      refine ipv6Pieces?_written hlater ?_ ?_
      · simp only [readCount, Option.elim_some, List.length_nil] at hlength ⊢
        omega
      · simp only [List.length_cons]
        omega
    rw [ipv6?]
    exact (congrArg (·.bind ipv6Filled?) hread).trans (if_pos hlength)
  | cons p front =>
    have hfirst := length_le_piecesText (p :: front)
    have hread : ipv6Pieces?
        ((piecesText (p :: front) ++ ':' :: ':' :: piecesText later).length + 1) [] none
        (piecesText (p :: front) ++ ':' :: ':' :: piecesText later) =
          some (p :: front, some later) := by
      refine ipv6Pieces?_colons hfront hlater ?_ ?_
      · simp only [List.length_nil, List.length_cons] at hlength ⊢
        omega
      · simp only [List.length_append, List.length_cons] at hfirst ⊢
        omega
    obtain ⟨rest, hrest⟩ := exists_rest_piecesText p front (':' :: piecesText later)
    have hstart := ipv6Start?_piece p rest
    rw [← hrest] at hstart
    rw [ipv6?, hstart]
    exact (congrArg (·.bind ipv6Filled?) hread).trans (if_pos hlength)

/-- An address of version 6 reads back as itself. -/
theorem ipv6?_text {pieces : List Nat} (h : IsAddress pieces) :
    ipv6? (ipv6Text pieces) = some pieces := by
  have hzeros := take_longestZeros pieces
  unfold ipv6Text
  generalize longestZeros pieces = run at hzeros ⊢
  obtain ⟨start, length⟩ := run
  simp only at hzeros ⊢
  split
  · exact ipv6?_piecesText h
  · next hlong =>
    have hlength := congrArg List.length hzeros
    rw [List.length_take, List.length_drop, List.length_replicate, h.length] at hlength
    have hsplit : pieces.take start ++ List.replicate length 0 ++ pieces.drop (start + length) =
        pieces := by
      rw [← hzeros, ← List.drop_drop, List.append_assoc, List.take_append_drop,
        List.take_append_drop]
    have hfront : (pieces.take start).length = start := by
      rw [List.length_take, h.length]
      omega
    have hlater : (pieces.drop (start + length)).length = 8 - start - length := by
      rw [List.length_drop, h.length]
      omega
    have hgap : 8 - start - (8 - start - length) = length := by omega
    rw [ipv6?_colons (fun p hp => h.small p (List.mem_of_mem_take hp))
      (fun p hp => h.small p (List.mem_of_mem_drop hp)) (by omega), hfront, hlater, hgap, hsplit]

theorem piecesText_characters {pieces : List Nat} {c : Char} (h : c ∈ piecesText pieces) :
    c = ':' ∨ ∃ d < 16, c = d.digitChar := by
  have hpiece {p : Nat} (hc : c ∈ Nat.toDigits 16 p) : c = ':' ∨ ∃ d < 16, c = d.digitChar :=
    Or.inr (Text.exists_digit_of_mem (by decide) hc)
  induction pieces with
  | nil => exact absurd h List.not_mem_nil
  | cons p pieces ih =>
    cases pieces with
    | nil =>
      rw [piecesText_singleton] at h
      exact hpiece h
    | cons q pieces =>
      rw [piecesText_cons] at h
      rcases List.mem_append.mp h with h | h
      · exact hpiece h
      · exact (List.mem_cons.mp h).elim Or.inl ih

theorem ipv6Text_characters {pieces : List Nat} {c : Char} (h : c ∈ ipv6Text pieces) :
    c = ':' ∨ ∃ d < 16, c = d.digitChar := by
  unfold ipv6Text at h
  split at h
  split at h
  · exact piecesText_characters h
  · simp only [List.mem_append, List.mem_cons] at h
    rcases h with h | h | h | h
    · exact piecesText_characters h
    · exact Or.inl h
    · exact Or.inl h
    · exact piecesText_characters h

end AnchoredMetadata.Url
