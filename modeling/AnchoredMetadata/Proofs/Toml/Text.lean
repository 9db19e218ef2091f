import AnchoredMetadata.Toml.Text
import Mathlib.Tactic.SplitIfs

/-!
# Texts in TOML read back

A text that is written with quotes is read back, whatever follows it, as long as no further quote
stands right behind it. Which of the forms is chosen depends on the text; each form has a lemma of
its own, by induction on the text, and the reader takes one character of the text at a time. Quotes
between triple quotes are the exception: the reader looks at three at once, so the induction carries
along the quotes that have been written and not yet read.
-/

namespace AnchoredMetadata.Toml

/-- No quote stands at the start of a text. -/
def Unquoted (cs : List Char) : Prop := ∀ c ∈ cs.head?, c ≠ '"' ∧ c ≠ '\''

theorem unquoted_cons {c : Char} {rest : List Char} (hdouble : c ≠ '"') (hsingle : c ≠ '\'') :
    Unquoted (c :: rest) := by
  intro d hd
  obtain rfl : c = d := Option.some.inj hd
  exact ⟨hdouble, hsingle⟩

@[simp] theorem push_some (c : Char) (text rest : List Char) :
    push (some c) (some (text, rest)) = some (c :: text, rest) := rfl

/-! ## What is written for a character -/

/-- A character that passes a test is none that fails it. -/
theorem ne_of_test {test : Char → Bool} {c d : Char} (hc : test c = true) (hd : test d = false) :
    c ≠ d := by
  rintro rfl
  exact absurd (hd.symm.trans hc) nofun

theorem isPlain_ne {c : Char} (h : isPlain c = true) : c ≠ '\n' ∧ c ≠ '\r' :=
  ⟨ne_of_test h (by decide), ne_of_test h (by decide)⟩

/-- A character that is not plain has a code that two digits show. -/
theorem toNat_lt_of_not_plain {c : Char} (h : ¬ isPlain c = true) : c.toNat < 128 := by
  simp only [isPlain, Bool.or_eq_true, Bool.and_eq_true, decide_eq_true_eq] at h
  omega

theorem codePoint?_hexDigits : ∀ n < 128,
    codePoint? ['0', '0', Text.hexDigitUpper (n / 16), Text.hexDigitUpper (n % 16)] =
      some (Char.ofNat n) := by
  decide +kernel

/-- The letters that open an escape with a code stand for no character, nor does space. -/
theorem escaped?_ne {c d : Char} (h : escaped? d = some c) :
    d ≠ 'u' ∧ d ≠ 'U' ∧ d ≠ '\n' ∧ d ≠ '\r' ∧ d ≠ ' ' ∧ d ≠ '\t' := by
  refine ⟨?_, ?_, ?_, ?_, ?_, ?_⟩ <;> rintro rfl <;> cases h

/-- A character is written by an escape of its own, as it is, or by an escape with its code. -/
inductive WrittenAs (c : Char) : List Char → Prop where
  /-- An escape of its own. -/
  | escape {d : Char} (h : escaped? d = some c) : WrittenAs c ['\\', d]
  /-- The character as it is. -/
  | plain (h : isPlain c = true) (hslash : c ≠ '\\') : WrittenAs c [c]
  /-- An escape with its code. -/
  | code {a b : Char} (h : codePoint? ['0', '0', a, b] = some c) :
      WrittenAs c ['\\', 'u', '0', '0', a, b]

theorem writeChar_writtenAs (c : Char) : WrittenAs c (writeChar c) := by
  rw [writeChar]
  split_ifs with hb ht hf hr hs hp
  · exact .escape (hb ▸ rfl)
  · exact .escape (ht ▸ rfl)
  · exact .escape (hf ▸ rfl)
  · exact .escape (hr ▸ rfl)
  · subst hs
    exact .escape rfl
  · exact .plain hp hs
  · have hcode := codePoint?_hexDigits c.toNat (toNat_lt_of_not_plain hp)
    rw [Char.ofNat_toNat] at hcode
    exact .code hcode

/-- What is written for a character starts with a plain one, which is no quote unless the character
is. -/
theorem exists_head_writeChar {c : Char} (h : c ≠ '"') :
    ∃ d rest, writeChar c = d :: rest ∧ isPlain d = true ∧ d ≠ '"' := by
  have hwritten := writeChar_writtenAs c
  generalize writeChar c = text at hwritten
  cases hwritten with
  | escape => exact ⟨_, _, rfl, by decide, by decide⟩
  | plain hplain => exact ⟨_, _, rfl, hplain, h⟩
  | code => exact ⟨_, _, rfl, by decide, by decide⟩

/-! ## One line -/

theorem readBasic_escape {c d : Char} (h : escaped? d = some c) (rest : List Char) :
    readBasic ('\\' :: d :: rest) = push (some c) (readBasic rest) := by
  obtain ⟨hu, hU, -⟩ := escaped?_ne h
  rw [readBasic, h]
  · exact fun _ _ _ _ _ hd => absurd hd hu
  · exact fun _ _ _ _ _ _ _ _ _ hd => absurd hd hU

theorem readBasic_writtenAs {c : Char} {text : List Char} (hwritten : WrittenAs c text)
    (hquote : c ≠ '"') (rest : List Char) :
    readBasic (text ++ rest) = push (some c) (readBasic rest) := by
  cases hwritten with
  | escape h => exact readBasic_escape h rest
  | plain h hslash =>
    rw [List.singleton_append, readBasic]
    · simp [h, hslash]
    all_goals simp_all
  | code h => simp only [List.cons_append, List.nil_append, readBasic, h]

theorem readBasic_writeBasic (cs rest : List Char) :
    readBasic (writeBasic cs ++ '"' :: rest) = some (cs, rest) := by
  induction cs with
  | nil => rfl
  | cons c cs ih =>
    rw [writeBasic, List.append_assoc]
    split_ifs with hquote hline
    · rw [List.cons_append, List.singleton_append, readBasic_escape (c := '"') rfl, ih, push_some,
        hquote]
    · rw [List.cons_append, List.singleton_append, readBasic_escape (c := '\n') rfl, ih, push_some,
        hline]
    · rw [readBasic_writtenAs (writeChar_writtenAs c) hquote, ih, push_some]

theorem readLiteral_append {cs : List Char} (h : ∀ c ∈ cs, isPlain c = true ∧ c ≠ '\'')
    (rest : List Char) : readLiteral (cs ++ '\'' :: rest) = some (cs, rest) := by
  induction cs with
  | nil => rfl
  | cons c cs ih =>
    obtain ⟨⟨hplain, hquote⟩, hcs⟩ := List.forall_mem_cons.mp h
    rw [List.cons_append, readLiteral, if_pos hplain, ih hcs, push_some]
    exact hquote

/-! ## Quotes between triple quotes -/

theorem closing_replicate {q : Char} {n : Nat} (h : n ≤ 2) {rest : List Char}
    (hrest : ∀ c ∈ rest.head?, c ≠ q) :
    closing q (List.replicate n q ++ rest) = (List.replicate n q, rest) := by
  -- what follows the quotes is looked at only if there are fewer than two
  have hhead : ∀ c more, rest = c :: more → c ≠ q := fun c more hmore => hrest c (by simp [hmore])
  obtain rfl | rfl | rfl : n = 0 ∨ n = 1 ∨ n = 2 := by omega
  · match rest with
    | [] => rfl
    | [a] => simp [closing, hhead a [] rfl]
    | a :: b :: more => simp [closing, hhead a (b :: more) rfl]
  · match rest with
    | [] => simp [closing]
    | b :: more => simp [closing, hhead b more rfl]
  · simp [closing]

/-- A reader of text between triple quotes. -/
structure ReadsTriple (quote : Char) (read : Reader (List Char)) : Prop where
  /-- Three quotes end the text. -/
  triple : ∀ rest, read (quote :: quote :: quote :: rest) = some (closing quote rest)
  /-- A quote before something else than two more belongs to the text. -/
  single : ∀ rest, ¬ [quote, quote] <+: rest →
    read (quote :: rest) = push (some quote) (read rest)

namespace ReadsTriple

variable {q : Char} {read : Reader (List Char)} {n : Nat}

/-- One or two quotes before another character belong to the text. -/
theorem quotes (hread : ReadsTriple q read) (hn : n ≤ 2) {c : Char} (hc : c ≠ q)
    {rest text after : List Char} (h : read (c :: rest) = some (text, after)) :
    read (List.replicate n q ++ c :: rest) = some (List.replicate n q ++ text, after) := by
  have hone : read (q :: c :: rest) = some (q :: text, after) := by
    rw [hread.single, h, push_some]
    simp [List.cons_prefix_cons, hc.symm]
  obtain rfl | rfl | rfl : n = 0 ∨ n = 1 ∨ n = 2 := by omega
  · exact h
  · exact hone
  · change read (q :: q :: c :: rest) = _
    rw [hread.single, hone, push_some]
    · rfl
    · simp [List.cons_prefix_cons, hc.symm]

/-- One or two quotes before the closing ones belong to the text. -/
theorem quotes_end (hread : ReadsTriple q read) (hn : n ≤ 2) {rest : List Char}
    (hrest : ∀ c ∈ rest.head?, c ≠ q) :
    read (List.replicate n q ++ (List.replicate 3 q ++ rest)) = some (List.replicate n q, rest) := by
  rw [← List.append_assoc, List.replicate_append_replicate, Nat.add_comm,
    ← List.replicate_append_replicate, List.append_assoc]
  exact (hread.triple _).trans (congrArg some (closing_replicate hn hrest))

end ReadsTriple

/-! ## Several lines between double quotes -/

theorem readsTriple_readBasicLines : ReadsTriple '"' (readBasicLines .none) where
  triple rest := by
    rw [readBasicLines]
    all_goals simp
  single rest h := by
    rw [readBasicLines]
    · rfl
    case x_10 =>
      rintro more - rfl
      exact h ⟨more, rfl⟩
    all_goals simp

theorem readBasicLines_newline (rest : List Char) :
    readBasicLines .none ('\n' :: rest) = push (some '\n') (readBasicLines .none rest) := by
  rw [readBasicLines]
  all_goals simp

theorem readBasicLines_escape {c d : Char} (h : escaped? d = some c) (rest : List Char) :
    readBasicLines .none ('\\' :: d :: rest) = push (some c) (readBasicLines .none rest) := by
  obtain ⟨hu, hU, hn, hr, hspace, htab⟩ := escaped?_ne h
  rw [readBasicLines]
  · simp [h, isSpace, hspace, htab]
  all_goals simp_all

theorem readBasicLines_writtenAs {c : Char} {text : List Char} (hwritten : WrittenAs c text)
    (hquote : c ≠ '"') (rest : List Char) :
    readBasicLines .none (text ++ rest) = push (some c) (readBasicLines .none rest) := by
  cases hwritten with
  | escape h => exact readBasicLines_escape h rest
  | plain h hslash =>
    obtain ⟨hn, hr⟩ := isPlain_ne h
    rw [List.singleton_append, readBasicLines]
    · simp [h, hslash]
    all_goals simp_all
  | code h =>
    simp only [List.cons_append, List.nil_append]
    rw [readBasicLines, h]
    all_goals simp

/-- Written text is read back behind quotes that were written before it and not yet read. -/
theorem readBasicLines_writeBasicLines {rest : List Char} (hrest : Unquoted rest) (cs : List Char)
    {run : Nat} (hrun : run ≤ 2) :
    readBasicLines .none
        (List.replicate run '"' ++ (writeBasicLines run cs ++ (List.replicate 3 '"' ++ rest))) =
      some (List.replicate run '"' ++ cs, rest) := by
  have hquotes := readsTriple_readBasicLines
  induction cs generalizing run with
  | nil =>
    rw [writeBasicLines, List.nil_append, List.append_nil]
    exact hquotes.quotes_end hrun fun c hc => (hrest c hc).1
  | cons c cs ih =>
    have hnext := ih (Nat.zero_le 2)
    rw [List.replicate_zero, List.nil_append, List.nil_append] at hnext
    rw [writeBasicLines]
    split_ifs with hquote hthird hline
    · -- the third quote in a row is escaped
      have hread : readBasicLines .none ('\\' :: '"' :: (writeBasicLines 0 cs ++
          (List.replicate 3 '"' ++ rest))) = some ('"' :: cs, rest) := by
        rw [readBasicLines_escape (c := '"') rfl, hnext, push_some]
      rw [hquote]
      exact hquotes.quotes hrun (by decide) hread
    · -- the quote joins those that were not yet read
      have hmore := @ih (run + 1) (by omega)
      rw [List.replicate_succ', List.append_assoc, List.append_assoc, List.singleton_append] at hmore
      rw [hquote]
      exact hmore
    · have hread : readBasicLines .none ('\n' :: (writeBasicLines 0 cs ++
          (List.replicate 3 '"' ++ rest))) = some ('\n' :: cs, rest) := by
        rw [readBasicLines_newline, hnext, push_some]
      rw [hline]
      exact hquotes.quotes hrun (by decide) hread
    · obtain ⟨d, more, hhead, -, hd⟩ := exists_head_writeChar hquote
      have hread := readBasicLines_writtenAs (writeChar_writtenAs c) hquote
        (writeBasicLines 0 cs ++ (List.replicate 3 '"' ++ rest))
      rw [hnext, push_some, hhead] at hread
      rw [hhead, List.append_assoc]
      exact hquotes.quotes hrun hd hread

/-! ## Several lines between single quotes -/

theorem readsTriple_readLiteralLines : ReadsTriple '\'' readLiteralLines where
  triple rest := by rw [readLiteralLines]
  single rest h := by
    rw [readLiteralLines]
    · rfl
    · rintro more - rfl
      exact h ⟨more, rfl⟩
    all_goals simp

theorem readLiteralLines_cons {c : Char} (h : needsEscape c = false) (hquote : c ≠ '\'')
    (rest : List Char) :
    readLiteralLines (c :: rest) = push (some c) (readLiteralLines rest) := by
  by_cases hline : c = '\n'
  · rw [hline, readLiteralLines]
  · have hplain : isPlain c = true := by simpa [needsEscape, hline] using h
    obtain ⟨hn, hr⟩ := isPlain_ne hplain
    rw [readLiteralLines, if_pos hplain]
    all_goals simp_all

/-- Text is read as it is behind quotes before it, if there are at most two quotes in a row. -/
theorem readLiteralLines_append {rest : List Char} (hrest : Unquoted rest) {cs : List Char}
    (hplain : ∀ c ∈ cs, needsEscape c = false) {run : Nat} (hrun : longestRun '\'' run cs ≤ 2) :
    readLiteralLines (List.replicate run '\'' ++ (cs ++ (List.replicate 3 '\'' ++ rest))) =
      some (List.replicate run '\'' ++ cs, rest) := by
  have hquotes := readsTriple_readLiteralLines
  induction cs generalizing run with
  | nil =>
    rw [List.nil_append, List.append_nil]
    exact hquotes.quotes_end hrun fun c hc => (hrest c hc).2
  | cons c cs ih =>
    obtain ⟨hc, hcs⟩ := List.forall_mem_cons.mp hplain
    rw [longestRun] at hrun
    split_ifs at hrun with hquote
    · have hmore := ih hcs hrun
      rw [List.replicate_succ', List.append_assoc, List.append_assoc, List.singleton_append] at hmore
      rw [hquote]
      exact hmore
    · have hnext := ih hcs (Nat.le_trans (Nat.le_max_right _ _) hrun)
      rw [List.replicate_zero, List.nil_append, List.nil_append] at hnext
      have hread : readLiteralLines (c :: (cs ++ (List.replicate 3 '\'' ++ rest))) =
          some (c :: cs, rest) := by
        rw [readLiteralLines_cons hc hquote, hnext, push_some]
      exact hquotes.quotes (Nat.le_trans (Nat.le_max_left _ _) hrun) hquote hread

/-! ## Texts with their quotes -/

theorem dropFirstNewline_plain {c : Char} (h : isPlain c = true) (rest : List Char) :
    dropFirstNewline (c :: rest) = c :: rest := by
  obtain ⟨hn, hr⟩ := isPlain_ne h
  rw [dropFirstNewline, newline?]
  · rfl
  all_goals simp_all

theorem readText_basic (cs : List Char) {rest : List Char} (hrest : Unquoted rest) :
    readText ('"' :: (writeBasic cs ++ '"' :: rest)) = some (cs, rest) := by
  rw [readText]
  · exact readBasic_writeBasic cs rest
  · -- no third quote stands behind the two of an empty text
    intro more hmore
    cases cs with
    | nil =>
      obtain rfl : rest = '"' :: more := (List.cons.inj hmore).2
      exact (hrest '"' rfl).1 rfl
    | cons c cs =>
      rw [writeBasic] at hmore
      split_ifs at hmore with hquote
      · exact absurd (List.cons.inj hmore).1 (by decide)
      · exact absurd (List.cons.inj hmore).1 (by decide)
      · obtain ⟨d, after, hhead, -, hd⟩ := exists_head_writeChar hquote
        rw [hhead] at hmore
        exact hd (List.cons.inj hmore).1

theorem readText_literal {cs : List Char} (h : ∀ c ∈ cs, isPlain c = true ∧ c ≠ '\'')
    {rest : List Char} (hrest : Unquoted rest) :
    readText ('\'' :: (cs ++ '\'' :: rest)) = some (cs, rest) := by
  rw [readText]
  · exact readLiteral_append h rest
  · intro more hmore
    cases cs with
    | nil =>
      obtain rfl : rest = '\'' :: more := (List.cons.inj hmore).2
      exact (hrest '\'' rfl).2 rfl
    | cons c cs => exact (h c List.mem_cons_self).2 (List.cons.inj hmore).1

/-- Behind the opening quotes a text on one line starts with a plain character, and one on several
lines on a line of its own. -/
theorem dropFirstNewline_content {several : Bool} {content : List Char}
    (h : several = false → ∀ c ∈ content.head?, isPlain c = true) (rest : List Char) {q : Char}
    (hq : isPlain q = true) :
    dropFirstNewline ((if several then ['\n'] else []) ++ content ++ q :: rest) =
      content ++ q :: rest := by
  cases several with
  | true => rfl
  | false =>
    cases content with
    | nil => exact dropFirstNewline_plain hq rest
    | cons c content => exact dropFirstNewline_plain (h rfl c rfl) _

theorem inTriple_append (q : Char) (several : Bool) (content rest : List Char) :
    inTriple q several content ++ rest =
      q :: q :: q :: ((if several then ['\n'] else []) ++ content ++ q :: q :: q :: rest) := by
  simp [inTriple, List.replicate]

theorem isPlain_head_writeBasicLines {cs : List Char} (h : '\n' ∉ cs) :
    ∀ c ∈ (writeBasicLines 0 cs).head?, isPlain c = true := by
  intro c hc
  cases cs with
  | nil => cases hc
  | cons d cs =>
    have hline : d ≠ '\n' := fun heq => h (heq ▸ List.mem_cons_self)
    rw [writeBasicLines, if_neg hline, if_neg (Nat.not_succ_le_zero 1)] at hc
    split_ifs at hc with hquote
    · obtain rfl : '"' = c := Option.some.inj hc
      decide
    · obtain ⟨first, rest, hhead, hplain, -⟩ := exists_head_writeChar hquote
      rw [hhead] at hc
      obtain rfl : first = c := Option.some.inj hc
      exact hplain

theorem readText_basicLines {cs : List Char} {several : Bool} (h : several = false → '\n' ∉ cs)
    {rest : List Char} (hrest : Unquoted rest) :
    readText (inTriple '"' several (writeBasicLines 0 cs) ++ rest) = some (cs, rest) := by
  have hhead := fun hone => isPlain_head_writeBasicLines (h hone)
  rw [inTriple_append, readText, dropFirstNewline_content hhead _ (by decide)]
  exact readBasicLines_writeBasicLines hrest cs (Nat.zero_le 2)

theorem readText_literalLines {cs : List Char} (hplain : ∀ c ∈ cs, needsEscape c = false)
    (hrun : longestRun '\'' 0 cs ≤ 2) {several : Bool} (h : several = false → '\n' ∉ cs)
    {rest : List Char} (hrest : Unquoted rest) :
    readText (inTriple '\'' several cs ++ rest) = some (cs, rest) := by
  have hhead : several = false → ∀ c ∈ cs.head?, isPlain c = true := by
    intro hone c hc
    have hmem : c ∈ cs := List.mem_of_mem_head? hc
    have hline : c ≠ '\n' := fun heq => h hone (heq ▸ hmem)
    simpa [needsEscape, hline] using hplain c hmem
  rw [inTriple_append, readText, dropFirstNewline_content hhead _ (by decide)]
  exact readLiteralLines_append hrest hplain hrun

theorem not_mem_of_longestRun {q : Char} {cs : List Char} {run : Nat}
    (h : longestRun q run cs = 0) : run = 0 ∧ q ∉ cs := by
  induction cs generalizing run with
  | nil => exact ⟨h, List.not_mem_nil⟩
  | cons c cs ih =>
    rw [longestRun] at h
    split_ifs at h with hquote
    · exact absurd (ih h).1 (Nat.succ_ne_zero run)
    · obtain ⟨hrun, hrest⟩ := Nat.max_eq_zero_iff.mp h
      exact ⟨hrun, List.not_mem_cons_of_ne_of_not_mem (Ne.symm hquote) (ih hrest).2⟩

/-- A text is read back from its written form, if no quote stands right behind this. -/
theorem readText_writeText (cs : List Char) {rest : List Char} (hrest : Unquoted rest) :
    readText (writeText cs ++ rest) = some (cs, rest) := by
  have hlines : cs.contains '\n' = false → '\n' ∉ cs := by simp
  have hescape : (!cs.any needsEscape) = true → ∀ c ∈ cs, needsEscape c = false := by simp
  have hbasic : readText (('"' :: writeBasic cs ++ ['"']) ++ rest) = some (cs, rest) := by
    rw [List.append_assoc]
    exact readText_basic cs hrest
  rw [writeText]
  simp only [Bool.and_eq_true, decide_eq_true_eq]
  split_ifs with hone hquoted hdouble hsingle hseveral
  · exact hbasic
  · obtain ⟨⟨hplain, hnone⟩, hline⟩ := hquoted
    have hquote := (not_mem_of_longestRun hnone).2
    have hall : ∀ c ∈ cs, isPlain c = true ∧ c ≠ '\'' := by
      intro c hc
      have hne : c ≠ '\n' := fun heq => hlines (by simpa using hline) (heq ▸ hc)
      refine ⟨?_, fun heq => hquote (heq ▸ hc)⟩
      simpa [needsEscape, hne] using hescape hplain c hc
    rw [List.append_assoc]
    exact readText_literal hall hrest
  · exact readText_basicLines hlines hrest
  · exact readText_literalLines (hescape hsingle.1) hsingle.2 hlines hrest
  · exact readText_basicLines (fun hone => absurd (hone.symm.trans hseveral) nofun) hrest
  · exact hbasic

/-- A written text starts with a quote. -/
theorem exists_head_writeText (cs : List Char) :
    ∃ q rest, writeText cs = q :: rest ∧ (q = '"' ∨ q = '\'') := by
  rw [writeText]
  split_ifs
  · exact ⟨_, _, rfl, Or.inl rfl⟩
  · exact ⟨_, _, rfl, Or.inr rfl⟩
  · exact ⟨_, _, rfl, Or.inl rfl⟩
  · exact ⟨_, _, rfl, Or.inr rfl⟩
  · exact ⟨_, _, rfl, Or.inl rfl⟩
  · exact ⟨_, _, rfl, Or.inl rfl⟩

end AnchoredMetadata.Toml
