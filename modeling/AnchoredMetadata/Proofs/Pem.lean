import AnchoredMetadata.Proofs.Base64.Canonical
import Mathlib.Data.List.Infix

/-!
# What a textual bundle is made of

Every text is a row of lines, and its lines make up a row of pieces: lines between blocks, and
blocks from a heading to the next line that ends one. The row may break off inside a block, or at a
heading that is not closed. The reader of lines gives exactly the blocks among the pieces, up to the
first whose body is not base64. It goes from one piece to the next, so the induction is on the
pieces, with one lemma for each kind of line.
-/

namespace AnchoredMetadata

/-! ## Base64 texts one after another -/

namespace Base64

/-- A text is made of base64 texts that stand one after another, and some bytes of theirs. -/
def IsConcatenated (text bytes : List UInt8) : Prop :=
  ∃ parts : List (List UInt8), text = parts.flatMap encode ∧ bytes = parts.flatten

theorem decodeConcatenated?_encode_append (bytes text : List UInt8) :
    decodeConcatenated? (encode bytes ++ text) = (decodeConcatenated? text).map (bytes ++ ·) := by
  fun_induction encode bytes with
  | case1 => simp
  | case2 a n =>
    have hgroup := decodeLast_one a 0
    simp only [encode] at hgroup
    simp only [List.cons_append, List.nil_append, decodeConcatenated?, n, hgroup]
    cases decodeConcatenated? text <;> rfl
  | case3 a b m n =>
    have hgroup := decodeLast_two a b 0
    simp only [encode] at hgroup
    simp only [List.cons_append, List.nil_append, decodeConcatenated?, m, n, hgroup]
    cases decodeConcatenated? text <;> rfl
  | case4 a b c rest m n o ih =>
    have hgroup := decodeLast_three a b c 0
    simp only [encode] at hgroup
    simp only [List.cons_append, decodeConcatenated?, m, n, o, hgroup, ih]
    cases decodeConcatenated? text <;> rfl

theorem decodeConcatenated?_eq_some_iff {text bytes : List UInt8} :
    decodeConcatenated? text = some bytes ↔ IsConcatenated text bytes := by
  constructor
  · intro h
    fun_induction decodeConcatenated? text generalizing bytes with
    | case1 => exact ⟨[], rfl, (Option.some.inj h).symm⟩
    | case2 a b c d rest head tail htail hhead ih =>
      obtain ⟨parts, hrest, hbytes⟩ := ih htail
      have hgroup : encode head = [a, b, c, d] := decodeLast_eq_ok (by simp) hhead
      refine ⟨head :: parts, ?_, ?_⟩
      · simp [hgroup, hrest]
      · rw [← Option.some.inj h, hbytes, List.flatten_cons]
    | case3 => cases h
    | case4 => cases h
  · rintro ⟨parts, rfl, rfl⟩
    induction parts with
    | nil => rfl
    | cons part parts ih =>
      rw [List.flatMap_cons, decodeConcatenated?_encode_append, ih]
      rfl

end Base64

namespace Pem

open Text

/-! ## Lines -/

/-- A line, given without its line feed. -/
structure Line where
  /-- Its characters. -/
  text : List Char
  /-- There is no line feed among them. -/
  oneLine : '\n' ∉ text

/-- A line at whose start a mark does not stand. -/
structure LineWithout (mark : List Char) extends Line where
  /-- The mark does not stand at its start. -/
  unmarked : ¬ mark <+: text

/-- A line with a mark at its start. -/
structure LineWith (mark : List Char) where
  /-- What follows the mark. -/
  rest : List Char
  /-- There is no line feed in it. -/
  oneLine : '\n' ∉ rest

/-- The characters of the line, the mark included. -/
def LineWith.text {mark : List Char} (l : LineWith mark) : List Char := mark ++ l.rest

/-- The lines of a file as the reader of lines gets them: every line but the last one has its line
feed, and there is no last one if nothing stands behind the last line feed. -/
def fileLines : List (List Char) → List (List UInt8)
  | [] => []
  | [line] => if line = [] then [] else [utf8Encode line]
  | line :: next :: rest => utf8Encode (line ++ ['\n']) :: fileLines (next :: rest)

theorem newline_not_mem_utf8Encode {line : List Char} (h : '\n' ∉ line) :
    10 ∉ utf8Encode line := by
  intro hin
  obtain ⟨c, hc, hbyte⟩ := List.mem_flatMap.mp hin
  have hcode : c.toNat = 10 := by
    rcases mem_encodeChar hbyte with ⟨-, hcode⟩ | ⟨-, hhigh⟩
    · exact hcode.symm
    · simp at hhigh
  have hnewline : c = '\n' := by
    rw [← Char.ofNat_toNat c, hcode]
  exact h (hnewline ▸ hc)

theorem splitLines_of_not_mem {line : List UInt8} (h : 10 ∉ line) :
    splitLines line = if line = [] then [] else [line] := by
  induction line with
  | nil => rfl
  | cons b line ih =>
    simp only [List.mem_cons, not_or] at h
    rw [splitLines, if_neg (Ne.symm h.1), ih h.2]
    cases line <;> simp

theorem splitLines_append {line : List UInt8} (h : 10 ∉ line) (rest : List UInt8) :
    splitLines (line ++ 10 :: rest) = (line ++ [10]) :: splitLines rest := by
  induction line with
  | nil => simp [splitLines]
  | cons b line ih =>
    simp only [List.mem_cons, not_or] at h
    rw [List.cons_append, splitLines, if_neg (Ne.symm h.1), ih h.2]
    rfl

/-- Lines with line feeds between them are the lines of the file. -/
theorem splitLines_utf8Encode {lines : List (List Char)} (h : ∀ line ∈ lines, '\n' ∉ line) :
    splitLines (utf8Encode (['\n'].intercalate lines)) = fileLines lines := by
  have hfeed : utf8Encode ['\n'] = [10] := by decide
  induction lines with
  | nil => rfl
  | cons line rest ih =>
    obtain ⟨hline, hrest⟩ := List.forall_mem_cons.mp h
    have hbytes := newline_not_mem_utf8Encode hline
    cases rest with
    | nil =>
      rw [List.intercalate_singleton, splitLines_of_not_mem hbytes, fileLines]
      cases line with
      | nil => rfl
      | cons c line =>
        have hne : utf8Encode (c :: line) ≠ [] := by
          intro hnil
          have hback := utf8Decode?_utf8Encode (c :: line)
          rw [hnil] at hback
          exact absurd hback nofun
        simp [hne]
    | cons next rest =>
      rw [List.intercalate_cons_cons, utf8Encode_append, utf8Encode_append, hfeed,
        List.append_assoc, List.singleton_append, splitLines_append hbytes, ih hrest, fileLines,
        utf8Encode_append, hfeed]

/-- Every text is made of lines with line feeds between them. -/
theorem exists_lines (text : List Char) :
    ∃ lines, (∀ line ∈ lines, '\n' ∉ line) ∧ lines ≠ [] ∧ ['\n'].intercalate lines = text := by
  induction text with
  | nil => exact ⟨[[]], by simp, by simp, by simp⟩
  | cons c text ih =>
    obtain ⟨lines, hlines, hne, rfl⟩ := ih
    obtain ⟨line, rest, rfl⟩ := List.exists_cons_of_ne_nil hne
    by_cases hc : c = '\n'
    · subst hc
      refine ⟨[] :: line :: rest, ?_, by simp, ?_⟩
      · simpa using hlines
      · simp [List.intercalate_cons_cons]
    · obtain ⟨hline, hrest⟩ := List.forall_mem_cons.mp hlines
      refine ⟨(c :: line) :: rest, ?_, by simp, ?_⟩
      · rw [List.forall_mem_cons]
        exact ⟨by simp [Ne.symm hc, hline], hrest⟩
      · cases rest with
        | nil => simp
        | cons next rest => simp [List.intercalate_cons_cons]

/-! ## Reading a line -/

theorem hasInfix_iff {part text : List Char} : hasInfix part text = true ↔ part <:+: text := by
  induction text with
  | nil => simp [hasInfix]
  | cons c text ih => simp [hasInfix, ih, List.infix_cons_iff]

/-- What may follow the characters of a line: a line feed, or nothing on the last line. -/
def LineEnd (e : List Char) : Prop := e = [] ∨ e = ['\n']

theorem not_prefix_append_lineEnd {mark text e : List Char} (hmark : '\n' ∉ mark)
    (htext : ¬ mark <+: text) (he : LineEnd e) : ¬ mark <+: text ++ e := by
  rcases he with rfl | rfl
  · simpa using htext
  · rw [List.prefix_concat_iff]
    rintro (rfl | hprefix)
    · simp at hmark
    · exact htext hprefix

theorem not_infix_append_lineEnd {part text e : List Char} (hpart : '\n' ∉ part)
    (htext : ¬ part <:+: text) (he : LineEnd e) : ¬ part <:+: text ++ e := by
  rcases he with rfl | rfl
  · simpa using htext
  · rw [List.infix_concat_iff]
    rintro (hsuffix | hinfix)
    · rcases List.suffix_concat_iff.mp hsuffix with rfl | ⟨shorter, rfl, -⟩
      · exact htext (List.nil_infix)
      · simp at hpart
    · exact htext hinfix

theorem trimEnd_append_lineEnd {e : List Char} (he : LineEnd e) (text : List Char) :
    trimEnd (text ++ e) = trimEnd text := by
  rcases he with rfl | rfl
  · simp
  · have hblank : isBlank '\n' = true := by decide
    simp [trimEnd, hblank]

/-- The reader takes a line without noticing whether it is the last one. -/
theorem exists_blocksFrom_cons (state : State) (line : List Char) (rest : List (List Char)) :
    ∃ e, LineEnd e ∧ blocksFrom state (fileLines (line :: rest)) =
      blocksFrom state (utf8Encode (line ++ e) :: fileLines rest) := by
  cases rest with
  | cons next rest => exact ⟨['\n'], Or.inr rfl, rfl⟩
  | nil =>
    refine ⟨[], Or.inl rfl, ?_⟩
    by_cases hline : line = []
    · subst hline
      cases state <;> rfl
    · simp [fileLines, hline]

theorem blocksFrom_cons (state : State) (text : List Char) (lines : List (List UInt8)) :
    blocksFrom state (utf8Encode text :: lines) =
      match state with
      | .outside =>
        if beginMark.isPrefixOf text then
          match label? text with
          | some label => blocksFrom (.inside label []) lines
          | none => [.error .invalidHeader]
        else blocksFrom .outside lines
      | .inside label body =>
        if endMark.isPrefixOf text then
          match block? label body with
          | .ok block => .ok block :: blocksFrom .outside lines
          | .error e => [.error e]
        else blocksFrom (.inside label (body ++ trimEnd text)) lines := by
  have hline := utf8Decode?_utf8Encode text
  cases state with
  | outside =>
    by_cases hmark : beginMark.isPrefixOf text = true
    · cases hlabel : label? text <;> simp [blocksFrom, hline, hmark, hlabel]
    · simp [blocksFrom, hline, hmark]
  | inside label body =>
    by_cases hmark : endMark.isPrefixOf text = true
    · cases hblock : block? label body <;> simp [blocksFrom, hline, hmark, hblock]
    · simp [blocksFrom, hline, hmark]

/-- A line between blocks is skipped. -/
theorem blocksFrom_skipped (l : LineWithout beginMark) (rest : List (List Char)) :
    blocksFrom .outside (fileLines (l.text :: rest)) = blocksFrom .outside (fileLines rest) := by
  obtain ⟨e, he, hread⟩ := exists_blocksFrom_cons .outside l.text rest
  have hmark := not_prefix_append_lineEnd (by decide) l.unmarked he
  rw [← List.isPrefixOf_iff_prefix] at hmark
  simp only [hread, blocksFrom_cons, hmark, if_false, Bool.false_eq_true]

/-- A line within a block is added to its body without the blanks at its end. -/
theorem blocksFrom_body (label body : List Char) (l : LineWithout endMark)
    (rest : List (List Char)) :
    blocksFrom (.inside label body) (fileLines (l.text :: rest)) =
      blocksFrom (.inside label (body ++ trimEnd l.text)) (fileLines rest) := by
  obtain ⟨e, he, hread⟩ := exists_blocksFrom_cons (.inside label body) l.text rest
  have hmark := not_prefix_append_lineEnd (by decide) l.unmarked he
  rw [← List.isPrefixOf_iff_prefix] at hmark
  simp only [hread, blocksFrom_cons, hmark, if_false, Bool.false_eq_true,
    trimEnd_append_lineEnd he]

/-- The line that ends a block ends it whatever follows its mark. -/
theorem blocksFrom_last (label body : List Char) (l : LineWith endMark)
    (rest : List (List Char)) :
    blocksFrom (.inside label body) (fileLines (l.text :: rest)) =
      match block? label body with
      | .ok block => .ok block :: blocksFrom .outside (fileLines rest)
      | .error e => [.error e] := by
  obtain ⟨e, -, hread⟩ := exists_blocksFrom_cons (.inside label body) l.text rest
  have hmark : endMark.isPrefixOf (l.text ++ e) = true := by
    rw [List.isPrefixOf_iff_prefix, LineWith.text, List.append_assoc]
    exact List.prefix_append _ _
  simp only [hread, blocksFrom_cons, hmark, if_true]

/-- The line that begins a block: a label without dashes, and behind it, from the next dash on,
five dashes in a row. -/
structure Heading where
  /-- What the block holds. -/
  label : List Char
  /-- What follows the first dash behind the label. -/
  rest : List Char
  /-- The label ends before the first dash. -/
  plain : '-' ∉ label
  /-- Five dashes close the label. -/
  closed : dashes <:+: '-' :: rest
  /-- It is one line. -/
  oneLine : '\n' ∉ label ++ '-' :: rest

/-- The characters of a heading. -/
def Heading.text (h : Heading) : List Char := beginMark ++ (h.label ++ '-' :: h.rest)

theorem Heading.label?_append (h : Heading) (more : List Char) :
    label? (h.text ++ more) = some h.label := by
  have hdrop : (h.text ++ more).drop beginMark.length = h.label ++ '-' :: (h.rest ++ more) := by
    simp [Heading.text]
  have hclosed : hasInfix dashes (h.label ++ '-' :: (h.rest ++ more)) = true := by
    rw [hasInfix_iff, ← List.cons_append]
    exact (h.closed.trans (List.infix_append' [] _ more)).trans (List.suffix_append _ _).isInfix
  have hlabel : (h.label ++ '-' :: (h.rest ++ more)).takeWhile (· ≠ '-') = h.label := by
    rw [List.takeWhile_append_of_pos]
    · simp
    · intro c hc
      simpa using ne_of_mem_of_not_mem hc h.plain
  simp only [label?, hdrop, hclosed, hlabel, if_true]

/-- A heading begins a block. -/
theorem blocksFrom_heading (h : Heading) (rest : List (List Char)) :
    blocksFrom .outside (fileLines (h.text :: rest)) =
      blocksFrom (.inside h.label []) (fileLines rest) := by
  obtain ⟨e, -, hread⟩ := exists_blocksFrom_cons .outside h.text rest
  have hmark : beginMark.isPrefixOf (h.text ++ e) = true := by
    rw [List.isPrefixOf_iff_prefix, Heading.text, List.append_assoc]
    exact List.prefix_append _ _
  simp only [hread, blocksFrom_cons, hmark, if_true, h.label?_append]

/-- A heading that is not closed ends the reading. -/
theorem blocksFrom_unclosed (l : LineWith beginMark) (h : ¬ dashes <:+: l.rest)
    (rest : List (List Char)) :
    blocksFrom .outside (fileLines (l.text :: rest)) = [.error .invalidHeader] := by
  obtain ⟨e, he, hread⟩ := exists_blocksFrom_cons .outside l.text rest
  have hmark : beginMark.isPrefixOf (l.text ++ e) = true := by
    rw [List.isPrefixOf_iff_prefix, LineWith.text, List.append_assoc]
    exact List.prefix_append _ _
  have hlabel : label? (l.text ++ e) = none := by
    have hopen := not_infix_append_lineEnd (by decide) h he
    rw [← hasInfix_iff] at hopen
    simp [label?, LineWith.text, hopen]
  simp only [hread, blocksFrom_cons, hmark, if_true, hlabel]

/-! ## Blocks -/

/-- A block as it stands in a bundle. The lines of its body are all those up to the next one that
ends a block, headings included. -/
structure Written where
  /-- The line that begins it. -/
  heading : Heading
  /-- The lines of its body. -/
  body : List (LineWithout endMark)
  /-- The line that ends it. -/
  last : LineWith endMark

/-- The characters of a body without the blanks at the ends of lines. -/
def joined (body : List (LineWithout endMark)) : List Char := body.flatMap fun l => trimEnd l.text

/-- The lines of a block. -/
def Written.lines (w : Written) : List (List Char) :=
  w.heading.text :: (w.body.map (·.text) ++ [w.last.text])

/-- The body of a block is base64, and stands for a content. -/
def Written.Holds (w : Written) (content : List UInt8) : Prop :=
  Base64.IsConcatenated (utf8Encode (joined w.body)) content

theorem Written.Holds.unique {w : Written} {a b : List UInt8} (ha : w.Holds a) (hb : w.Holds b) :
    a = b := by
  rw [Holds, ← Base64.decodeConcatenated?_eq_some_iff] at ha hb
  exact Option.some.inj (ha.symm.trans hb)

theorem blocksFrom_bodies (label acc : List Char) (body : List (LineWithout endMark))
    (rest : List (List Char)) :
    blocksFrom (.inside label acc) (fileLines (body.map (·.text) ++ rest)) =
      blocksFrom (.inside label (acc ++ joined body)) (fileLines rest) := by
  induction body generalizing acc with
  | nil => simp [joined]
  | cons l body ih =>
    rw [List.map_cons, List.cons_append, blocksFrom_body, ih]
    simp [joined]

/-- A block whose body is base64 is read as its content. -/
theorem blocksFrom_holds {w : Written} {content : List UInt8} (h : w.Holds content)
    (rest : List (List Char)) :
    blocksFrom .outside (fileLines (w.lines ++ rest)) =
      .ok ⟨w.heading.label, content⟩ :: blocksFrom .outside (fileLines rest) := by
  rw [Written.Holds, ← Base64.decodeConcatenated?_eq_some_iff] at h
  have hlines : w.lines ++ rest =
      w.heading.text :: (w.body.map (·.text) ++ w.last.text :: rest) := by
    simp [Written.lines]
  simp only [hlines, blocksFrom_heading, blocksFrom_bodies, blocksFrom_last, List.nil_append,
    block?, h]

/-- Reading ends at a block whose body is not base64. -/
theorem blocksFrom_holds_nothing {w : Written} (h : ∀ content, ¬ w.Holds content)
    (rest : List (List Char)) :
    blocksFrom .outside (fileLines (w.lines ++ rest)) = [.error .invalidBody] := by
  have hnone : Base64.decodeConcatenated? (utf8Encode (joined w.body)) = none := by
    rw [Option.eq_none_iff_forall_ne_some]
    intro content hcontent
    exact h content (Base64.decodeConcatenated?_eq_some_iff.mp hcontent)
  have hlines : w.lines ++ rest =
      w.heading.text :: (w.body.map (·.text) ++ w.last.text :: rest) := by
    simp [Written.lines]
  simp only [hlines, blocksFrom_heading, blocksFrom_bodies, blocksFrom_last, List.nil_append,
    block?, hnone]

/-- Reading ends inside a block that has no end. -/
theorem blocksFrom_unfinished (h : Heading) (body : List (LineWithout endMark)) :
    blocksFrom .outside (fileLines (h.text :: body.map (·.text))) =
      [.error .incomplete] := by
  have hbody := blocksFrom_bodies h.label [] body []
  rw [List.append_nil] at hbody
  rw [blocksFrom_heading, hbody]
  rfl

/-! ## Bundles -/

/-- A piece of a bundle. -/
inductive Piece where
  /-- A line between blocks. -/
  | line (l : LineWithout beginMark)
  /-- A block. -/
  | block (w : Written)

/-- The lines of a piece. -/
def Piece.lines : Piece → List (List Char)
  | .line l => [l.text]
  | .block w => w.lines

/-- What stands behind the pieces of a bundle. -/
inductive Ending where
  /-- Nothing. -/
  | complete
  /-- A block that has no end. -/
  | unfinished (heading : Heading) (body : List (LineWithout endMark))
  /-- A heading that is not closed, and other lines. -/
  | unclosed (l : LineWith beginMark) (isOpen : ¬ dashes <:+: l.rest)
    (rest : List Line)

/-- The lines of an ending. -/
def Ending.lines : Ending → List (List Char)
  | .complete => []
  | .unfinished heading body => heading.text :: body.map (·.text)
  | .unclosed l _ rest => l.text :: rest.map Line.text

/-- A text in pieces. -/
structure Bundle where
  /-- The pieces in their order. -/
  pieces : List Piece
  /-- What stands behind them. -/
  ending : Ending

namespace Bundle

/-- The lines of a bundle. -/
def lines (b : Bundle) : List (List Char) := b.pieces.flatMap Piece.lines ++ b.ending.lines

/-- The characters of a bundle: its lines with line feeds between them. If the last line has a line
feed too, an empty piece stands behind it. -/
def text (b : Bundle) : List Char := ['\n'].intercalate b.lines

/-- The bytes of a bundle. -/
def bytes (b : Bundle) : List UInt8 := utf8Encode b.text

end Bundle

theorem Heading.newline_not_mem (h : Heading) : '\n' ∉ h.text := by
  have hmark : '\n' ∉ beginMark := by decide
  rw [Heading.text, List.mem_append]
  exact not_or.mpr ⟨hmark, h.oneLine⟩

theorem LineWith.newline_not_mem {mark : List Char} (hmark : '\n' ∉ mark) (l : LineWith mark) :
    '\n' ∉ l.text := by
  rw [LineWith.text, List.mem_append]
  exact not_or.mpr ⟨hmark, l.oneLine⟩

theorem LineWithout.newline_not_mem_map {mark : List Char} (body : List (LineWithout mark)) :
    ∀ line ∈ body.map (·.text), '\n' ∉ line :=
  List.forall_mem_map.mpr fun l _ => l.oneLine

theorem Piece.newline_not_mem (p : Piece) : ∀ line ∈ p.lines, '\n' ∉ line := by
  cases p with
  | line l => simpa [Piece.lines] using l.oneLine
  | block w =>
    simp only [Piece.lines, Written.lines, List.forall_mem_cons, List.forall_mem_append]
    exact ⟨w.heading.newline_not_mem, LineWithout.newline_not_mem_map w.body,
      w.last.newline_not_mem (by decide), by simp⟩

theorem Ending.newline_not_mem (e : Ending) : ∀ line ∈ e.lines, '\n' ∉ line := by
  cases e with
  | complete => simp [Ending.lines]
  | unfinished heading body =>
    rw [Ending.lines, List.forall_mem_cons]
    exact ⟨heading.newline_not_mem, LineWithout.newline_not_mem_map body⟩
  | unclosed l isOpen rest =>
    rw [Ending.lines, List.forall_mem_cons]
    exact ⟨l.newline_not_mem (by decide), List.forall_mem_map.mpr fun l _ => l.oneLine⟩

theorem Bundle.newline_not_mem (b : Bundle) : ∀ line ∈ b.lines, '\n' ∉ line := by
  intro line hline
  rcases List.mem_append.mp hline with hpiece | hending
  · obtain ⟨p, -, hp⟩ := List.mem_flatMap.mp hpiece
    exact p.newline_not_mem line hp
  · exact b.ending.newline_not_mem line hending

theorem blocks_bytes (b : Bundle) : blocks b.bytes = blocksFrom .outside (fileLines b.lines) := by
  rw [blocks, Bundle.bytes, Bundle.text, splitLines_utf8Encode b.newline_not_mem]

/-! ## Every text is a bundle -/

theorem exists_map_text (lines : List (List Char)) (h : ∀ line ∈ lines, '\n' ∉ line) :
    ∃ others : List Line, lines = others.map Line.text :=
  ⟨lines.attach.map fun line => ⟨line.1, h line.1 line.2⟩, by simp⟩

/-- The lines behind a heading go on to the end, or to the first one that ends a block. -/
theorem exists_body (lines : List (List Char)) (h : ∀ line ∈ lines, '\n' ∉ line) :
    ∃ body : List (LineWithout endMark), lines = body.map (·.text) ∨
      ∃ (last : LineWith endMark) (rest : List (List Char)),
        lines = body.map (·.text) ++ last.text :: rest := by
  induction lines with
  | nil => exact ⟨[], Or.inl rfl⟩
  | cons line rest ih =>
    obtain ⟨hline, hrest⟩ := List.forall_mem_cons.mp h
    by_cases hmark : endMark <+: line
    · obtain ⟨more, rfl⟩ := hmark
      have hmore : '\n' ∉ more := fun hin => hline (List.mem_append_right _ hin)
      exact ⟨[], Or.inr ⟨⟨more, hmore⟩, rest, rfl⟩⟩
    · obtain ⟨body, hbody⟩ := ih hrest
      refine ⟨⟨⟨line, hline⟩, hmark⟩ :: body, ?_⟩
      rcases hbody with rfl | ⟨last, after, rfl⟩
      · exact Or.inl rfl
      · exact Or.inr ⟨last, after, rfl⟩

/-- What starts with a character is not found where this character does not occur. -/
theorem infix_of_not_mem {x : Char} {part label rest : List Char} (hx : x ∉ label)
    (h : x :: part <:+: label ++ rest) : x :: part <:+: rest := by
  induction label with
  | nil => exact h
  | cons c label ih =>
    simp only [List.mem_cons, not_or] at hx
    rw [List.cons_append, List.infix_cons_iff] at h
    rcases h with hprefix | hinfix
    · exact absurd (List.cons_prefix_cons.mp hprefix).1 hx.1
    · exact ih hx.2 hinfix

/-- A line that starts as a heading is closed, and so a heading, or it is not closed. -/
theorem exists_heading {line : List Char} (hline : '\n' ∉ line) (hmark : beginMark <+: line) :
    (∃ h : Heading, h.text = line) ∨
      ∃ l : LineWith beginMark, l.text = line ∧ ¬ dashes <:+: l.rest := by
  obtain ⟨more, rfl⟩ := hmark
  have hmore : '\n' ∉ more := fun hin => hline (List.mem_append_right _ hin)
  by_cases hclosed : dashes <:+: more
  case neg => exact Or.inr ⟨⟨more, hmore⟩, rfl, hclosed⟩
  left
  have hdash : '-' ∈ more := hclosed.subset (by decide)
  obtain ⟨label, rest, rfl, hplain⟩ := List.eq_append_cons_of_mem hdash
  exact ⟨⟨label, rest, hplain, infix_of_not_mem hplain hclosed, hmore⟩, rfl⟩

theorem exists_pieces (lines : List (List Char)) (h : ∀ line ∈ lines, '\n' ∉ line) :
    ∃ b : Bundle, b.lines = lines := by
  induction hlength : lines.length using Nat.strongRecOn generalizing lines with
  | ind n ih =>
    subst hlength
    cases lines with
    | nil => exact ⟨⟨[], .complete⟩, rfl⟩
    | cons line rest =>
      obtain ⟨hline, hrest⟩ := List.forall_mem_cons.mp h
      by_cases hmark : beginMark <+: line
      case neg =>
        obtain ⟨b, hb⟩ := ih rest.length (by simp) rest hrest rfl
        refine ⟨⟨.line ⟨⟨line, hline⟩, hmark⟩ :: b.pieces, b.ending⟩, ?_⟩
        rw [← hb]
        rfl
      rcases exists_heading hline hmark with ⟨heading, rfl⟩ | ⟨l, rfl, hopen⟩
      · obtain ⟨body, rfl | ⟨last, after, rfl⟩⟩ := exists_body rest hrest
        · exact ⟨⟨[], .unfinished heading body⟩, rfl⟩
        · have hafter : ∀ line ∈ after, '\n' ∉ line := fun line hin =>
            hrest line (List.mem_append_right _ (List.mem_cons_of_mem _ hin))
          obtain ⟨b, hb⟩ := ih after.length (by simp; omega) after hafter rfl
          refine ⟨⟨.block ⟨heading, body, last⟩ :: b.pieces, b.ending⟩, ?_⟩
          rw [← hb]
          simp [Bundle.lines, Piece.lines, Written.lines]
      · obtain ⟨others, rfl⟩ := exists_map_text rest hrest
        exact ⟨⟨[], .unclosed l hopen others⟩, rfl⟩

/-- Every text is that of a bundle. -/
theorem exists_bundle (text : List Char) : ∃ b : Bundle, b.text = text := by
  obtain ⟨lines, hlines, -, rfl⟩ := exists_lines text
  obtain ⟨b, rfl⟩ := exists_pieces lines hlines
  exact ⟨b, rfl⟩

end Pem

end AnchoredMetadata
