import AnchoredMetadata.Proofs.Toml.Value
import AnchoredMetadata.Toml.Document
import Mathlib.Data.List.Infix

/-!
# Documents read back

A written document is a row of lines, and every line is one statement: the header of a table, or a
key with its content. Reading goes line by line, so the induction is on the lines that are left.
-/

namespace AnchoredMetadata.Toml

/-! ## Names and keys -/

/-- A name that needs no quotes. -/
structure IsBareName (name : String) : Prop where
  /-- It is not empty. -/
  nonempty : name.toList ≠ []
  /-- Its characters need no quotes. -/
  bare : ∀ c ∈ name.toList, isBare c = true

instance (name : String) : Decidable (IsBareName name) :=
  decidable_of_iff (name.toList ≠ [] ∧ name.toList.all isBare = true)
    ⟨fun h => ⟨h.1, List.all_eq_true.mp h.2⟩, fun h => ⟨h.1, List.all_eq_true.mpr h.2⟩⟩

theorem IsBareName.exists_head {name : String} (h : IsBareName name) :
    ∃ c rest, name.toList = c :: rest ∧ isBare c = true := by
  obtain ⟨c, rest, hname⟩ := List.exists_cons_of_ne_nil h.nonempty
  exact ⟨c, rest, hname, h.bare c (by simp [hname])⟩

theorem readName_append {name : String} (h : IsBareName name) {c : Char} (hc : isBare c = false)
    (rest : List Char) : readName (name.toList ++ c :: rest) = some (name, c :: rest) := by
  have htake : (name.toList ++ c :: rest).takeWhile isBare = name.toList := by
    rw [List.takeWhile_append_of_pos h.bare]
    simp [hc]
  have hdrop : (name.toList ++ c :: rest).dropWhile isBare = c :: rest := by
    rw [List.dropWhile_append_of_pos h.bare]
    simp [hc]
  obtain ⟨first, more, hname, hfirst⟩ := h.exists_head
  rw [readName, htake, hdrop, String.ofList_toList]
  · simp [h.nonempty]
  · intro _ heq
    rw [hname] at heq
    exact ne_of_test hfirst (by decide) (List.cons.inj heq).1
  · intro _ heq
    rw [hname] at heq
    exact ne_of_test hfirst (by decide) (List.cons.inj heq).1

theorem skipSpace_cons {c : Char} (h : isSpace c = false) (rest : List Char) :
    skipSpace (c :: rest) = c :: rest := by
  simp [skipSpace, h]

theorem IsBareName.skipSpace_append {name : String} (h : IsBareName name) (rest : List Char) :
    skipSpace (name.toList ++ rest) = name.toList ++ rest := by
  obtain ⟨first, more, hname, hfirst⟩ := h.exists_head
  have hspace : first ≠ ' ' := ne_of_test hfirst (by decide)
  have htab : first ≠ '\t' := ne_of_test hfirst (by decide)
  rw [hname, List.cons_append]
  exact skipSpace_cons (by simp [isSpace, hspace, htab]) _

/-- Names with dots between them are read as a key, up to what is no part of one. -/
theorem readNames_intercalate {path : List String} {last : String}
    (h : ∀ name ∈ path ++ [last], IsBareName name) {c : Char} (hc : isBare c = false)
    {rest : List Char} (hdot : ∀ more, skipSpace (c :: rest) ≠ '.' :: more) {limit : Nat}
    (hlimit : path.length < limit) :
    readNames limit (['.'].intercalate ((path ++ [last]).map String.toList) ++ c :: rest) =
      some (⟨path, last⟩, skipSpace (c :: rest)) := by
  induction path generalizing limit with
  | nil =>
    obtain ⟨limit, rfl⟩ := Nat.exists_eq_succ_of_ne_zero (Nat.ne_of_gt hlimit)
    have hlast := h last (by simp)
    rw [List.nil_append, List.map_singleton, List.intercalate_singleton, readNames,
      hlast.skipSpace_append, readName_append hlast hc]
    dsimp only [Option.bind_eq_bind, Option.bind_some]
    split
    · next heq => exact absurd heq (hdot _)
    · rfl
  | cons name path ih =>
    obtain ⟨limit, rfl⟩ :=
      Nat.exists_eq_succ_of_ne_zero (Nat.ne_of_gt (Nat.zero_lt_of_lt hlimit))
    obtain ⟨hname, hpath⟩ := List.forall_mem_cons.mp h
    have hrest := ih hpath (Nat.lt_of_succ_lt_succ hlimit)
    have hsplit : ['.'].intercalate ((name :: path ++ [last]).map String.toList) ++ c :: rest =
        name.toList ++ '.' ::
          (['.'].intercalate ((path ++ [last]).map String.toList) ++ c :: rest) := by
      rw [List.cons_append, List.map_cons, List.intercalate_cons_of_ne_nil (by simp)]
      simp
    rw [hsplit, readNames, hname.skipSpace_append, readName_append hname (by decide)]
    simp only [Option.bind_eq_bind, Option.bind_some,
      skipSpace_cons (show isSpace '.' = false by decide), hrest]
    rfl

/-! ## Lines -/

/-- What is read for a key with its content. -/
def statement (pair : String × Content) : Statement := .pair ⟨[], pair.1⟩ pair.2.value

theorem exists_head_writeContent {c : Content} (h : c.IsCount) :
    ∃ first rest, writeContent c = first :: rest ∧ isSpace first = false := by
  cases c with
  | text s =>
    obtain ⟨q, rest, hhead, rfl | rfl⟩ := exists_head_writeText s.toList
    · exact ⟨_, rest, hhead, rfl⟩
    · exact ⟨_, rest, hhead, rfl⟩
  | integer n =>
    obtain ⟨k, -, rfl⟩ := h
    obtain ⟨d, rest, hdigits, hd, -⟩ := exists_toDigits k
    refine ⟨d, rest, (toList_toString_natCast k).trans hdigits, ?_⟩
    simp [isSpace, ne_of_test hd]
  | texts items =>
    rcases items with _ | ⟨s, _ | ⟨t, items⟩⟩
    · exact ⟨_, _, rfl, rfl⟩
    · exact ⟨_, _, rfl, rfl⟩
    · exact ⟨_, _, rfl, rfl⟩

theorem readKey_name {name : String} (h : IsBareName name) (rest : List Char) :
    readKey (name.toList ++ ' ' :: '=' :: rest) = some (⟨[], name⟩, '=' :: rest) := by
  have hnames : ∀ other ∈ [] ++ [name], IsBareName other := by simpa using h
  have hsign : ∀ more, skipSpace (' ' :: '=' :: rest) ≠ '.' :: more :=
    fun _ heq => absurd (List.cons.inj heq).1 (by decide)
  have hread := readNames_intercalate hnames (by decide) hsign
    (show [].length < depthLimit - 1 by decide)
  rw [List.nil_append, List.map_singleton, List.intercalate_singleton] at hread
  exact hread

theorem readPair_writePair {pair : String × Content} (hname : IsBareName pair.1)
    (hcount : pair.2.IsCount) (rest : List Char) :
    readPair (readValue (depthLimit - 1)) (writePair pair ++ rest) =
      some ((⟨[], pair.1⟩, pair.2.value), '\n' :: rest) := by
  have hvalue := readValue_writeContent hcount rest (depthLimit - 2)
  obtain ⟨first, more, hhead, hfirst⟩ := exists_head_writeContent hcount
  have hsplit : writePair pair ++ rest =
      pair.1.toList ++ ' ' :: '=' :: ' ' :: (writeContent pair.2 ++ '\n' :: rest) := by
    simp [writePair]
  have hskip : skipSpace (' ' :: (writeContent pair.2 ++ '\n' :: rest)) =
      writeContent pair.2 ++ '\n' :: rest := by
    rw [hhead, List.cons_append]
    exact skipSpace_cons hfirst _
  rw [hsplit, readPair, readKey_name hname]
  simp only [Option.bind_eq_bind, Option.bind_some, readChar, if_true, hskip]
  rw [show depthLimit - 1 = depthLimit - 2 + 1 from rfl, hvalue]
  rfl

theorem readStatement_writePair {pair : String × Content} (hname : IsBareName pair.1)
    (hcount : pair.2.IsCount) (rest : List Char) :
    readStatement (writePair pair ++ rest) = some (statement pair, rest) := by
  have hpair := readPair_writePair hname hcount rest
  obtain ⟨first, more, hhead, hfirst⟩ := hname.exists_head
  have hbracket : first ≠ '[' := ne_of_test hfirst (by decide)
  rw [writePair, hhead] at hpair ⊢
  simp only [List.cons_append] at hpair ⊢
  rw [readStatement, hpair]
  · rfl
  · exact fun _ h => hbracket (List.cons.inj h).1
  · exact fun _ h => hbracket (List.cons.inj h).1

/-! ## Tables -/

namespace Block

/-- The key in the header. -/
def key (b : Block) : Key := ⟨b.path.dropLast, b.path.getLastD ""⟩

/-- The keys below it. -/
def keys (b : Block) : List String := b.pairs.map Prod.fst

/-- What is read for the table. -/
def statements (b : Block) : List Statement := .header b.key :: b.pairs.map statement

/-- A table whose names need no quotes and whose numbers are those that documents can hold. -/
structure IsWritable (b : Block) : Prop where
  /-- There is a name in the header. -/
  nonempty : b.path ≠ []
  /-- There are not too many. -/
  short : b.path.length < depthLimit
  /-- They need no quotes. -/
  header : ∀ name ∈ b.path, IsBareName name
  /-- Nor do the keys. -/
  names : ∀ name ∈ b.keys, IsBareName name
  /-- The numbers are in range. -/
  counts : ∀ pair ∈ b.pairs, pair.2.IsCount

end Block

theorem exists_head_intercalate {names : List String} (hne : names ≠ [])
    (h : ∀ name ∈ names, IsBareName name) :
    ∃ c rest, ['.'].intercalate (names.map String.toList) = c :: rest ∧ isBare c = true := by
  match names, hne with
  | [name], _ =>
    rw [List.map_singleton, List.intercalate_singleton]
    exact (h name (by simp)).exists_head
  | name :: next :: names, _ =>
    obtain ⟨c, rest, hname, hc⟩ := (h name (by simp)).exists_head
    rw [List.map_cons, List.map_cons, List.intercalate_cons_cons, hname]
    exact ⟨c, _, rfl, hc⟩

theorem readStatement_header {b : Block} (h : b.IsWritable) (rest : List Char) :
    readStatement ('[' :: ((".".intercalate b.path).toList ++ ']' :: '\n' :: rest)) =
      some (.header b.key, rest) := by
  obtain ⟨names, pairs⟩ := b
  obtain rfl | ⟨path, last, rfl⟩ := List.eq_nil_or_concat' names
  · exact absurd rfl h.nonempty
  have hkey : Block.key ⟨path ++ [last], pairs⟩ = ⟨path, last⟩ := by
    simp [Block.key]
  have hlimit : path.length < depthLimit - 1 := by
    have hshort := h.short
    rw [List.length_append, List.length_singleton] at hshort
    omega
  have hend : ∀ more, skipSpace (']' :: '\n' :: rest) ≠ '.' :: more :=
    fun _ heq => absurd (List.cons.inj heq).1 (by decide)
  have hread := readNames_intercalate h.header (by decide) hend hlimit
  obtain ⟨first, more, hhead, hfirst⟩ := exists_head_intercalate h.nonempty h.header
  have hbracket : first ≠ '[' := ne_of_test hfirst (by decide)
  rw [hkey, String.toList_intercalate]
  change readStatement ('[' :: (['.'].intercalate ((path ++ [last]).map String.toList) ++ _)) = _
  rw [readStatement, readKey, hread]
  · rfl
  · intro after heq
    rw [hhead] at heq
    exact hbracket (List.cons.inj heq).1

/-! ## Documents -/

/-- All statements of a text, read with as many steps as it has characters. -/
def Reads (cs : List Char) (read : List Statement) : Prop :=
  ∀ fuel, cs.length < fuel → readStatements fuel cs = some read

theorem reads_nil : Reads [] [] := by
  intro fuel hfuel
  obtain ⟨fuel, rfl⟩ := Nat.exists_eq_succ_of_ne_zero (Nat.ne_of_gt hfuel)
  rfl

theorem Reads.emptyLine {cs : List Char} {read : List Statement} (h : Reads cs read) :
    Reads ('\n' :: cs) read := by
  intro fuel hfuel
  obtain ⟨fuel, rfl⟩ := Nat.exists_eq_succ_of_ne_zero (Nat.ne_of_gt (Nat.zero_lt_of_lt hfuel))
  exact h (fuel + 1) (Nat.lt_of_succ_lt hfuel)

theorem Reads.statement {c : Char} {cs rest : List Char} {s : Statement} {read : List Statement}
    (hc : c ∉ ['\n', '\r', ' ', '\t', '#']) (hs : readStatement (c :: cs) = some (s, rest))
    (hlength : rest.length ≤ cs.length) (h : Reads rest read) : Reads (c :: cs) (s :: read) := by
  intro fuel hfuel
  obtain ⟨fuel, rfl⟩ := Nat.exists_eq_succ_of_ne_zero (Nat.ne_of_gt (Nat.zero_lt_of_lt hfuel))
  have hrest : rest.length < fuel := Nat.lt_of_le_of_lt hlength (Nat.lt_of_succ_lt_succ hfuel)
  rw [readStatements, skipLines_cons hc]
  simp [hs, h fuel hrest]

theorem bare_not_mem {c : Char} (h : isBare c = true) : c ∉ ['\n', '\r', ' ', '\t', '#'] := by
  intro hin
  have hnone : ∀ d ∈ ['\n', '\r', ' ', '\t', '#'], isBare d = false := by simp [isBare]
  exact ne_of_test h (hnone c hin) rfl

theorem Reads.pair {pair : String × Content} (hname : IsBareName pair.1) (hcount : pair.2.IsCount)
    {rest : List Char} {read : List Statement} (h : Reads rest read) :
    Reads (writePair pair ++ rest) (Toml.statement pair :: read) := by
  have hstatement := readStatement_writePair hname hcount rest
  obtain ⟨c, more, hhead, hc⟩ := hname.exists_head
  rw [writePair, hhead] at hstatement ⊢
  exact .statement (bare_not_mem hc) hstatement (by simp; omega) h

theorem Reads.pairs {pairs : List (String × Content)} (hnames : ∀ pair ∈ pairs, IsBareName pair.1)
    (hcounts : ∀ pair ∈ pairs, pair.2.IsCount) {rest : List Char} {read : List Statement}
    (h : Reads rest read) :
    Reads (pairs.flatMap writePair ++ rest) (pairs.map Toml.statement ++ read) := by
  induction pairs with
  | nil => exact h
  | cons pair pairs ih =>
    obtain ⟨hname, hnames⟩ := List.forall_mem_cons.mp hnames
    obtain ⟨hcount, hcounts⟩ := List.forall_mem_cons.mp hcounts
    rw [List.flatMap_cons, List.append_assoc]
    exact (ih hnames hcounts).pair hname hcount

theorem Reads.block {b : Block} (hb : b.IsWritable) {rest : List Char} {read : List Statement}
    (h : Reads rest read) : Reads (writeBlock b ++ rest) (b.statements ++ read) := by
  have hpairs := h.pairs (List.forall_mem_map.mp hb.names) hb.counts
  have hsplit : writeBlock b ++ rest = '[' :: ((".".intercalate b.path).toList ++
      ']' :: '\n' :: (b.pairs.flatMap writePair ++ rest)) := by
    simp [writeBlock]
  rw [hsplit]
  exact .statement (by decide) (readStatement_header hb _) (by simp; omega) hpairs

theorem reads_write {blocks : List Block} (h : ∀ b ∈ blocks, b.IsWritable) :
    Reads (write blocks) (blocks.flatMap Block.statements) := by
  induction blocks with
  | nil => exact reads_nil
  | cons b blocks ih =>
    obtain ⟨hb, hblocks⟩ := List.forall_mem_cons.mp h
    have hrest := ih hblocks
    rw [List.flatMap_cons]
    cases blocks with
    | nil =>
      have hread := reads_nil.block hb
      rw [List.append_nil] at hread
      exact hread
    | cons next blocks => exact hrest.emptyLine.block hb

/-- The statements of a written document are those of its tables. -/
theorem statements_write {blocks : List Block} (h : ∀ b ∈ blocks, b.IsWritable) :
    statements (write blocks) = some (blocks.flatMap Block.statements) := by
  rw [statements]
  · exact reads_write h _ (Nat.lt_succ_self _)
  · -- a document starts with a bracket, not with a mark of the byte order
    intro rest hmark
    match blocks with
    | [] => cases hmark
    | [b] => exact absurd (List.cons.inj hmark).1 (by decide)
    | b :: next :: blocks => exact absurd (List.cons.inj hmark).1 (by decide)

/-! ## Putting a document together -/

namespace Block

/-- No key stands twice in the table. -/
def HasDistinctKeys (b : Block) : Prop := b.keys.Nodup

/-- What the names must be is looked up in the names alone. -/
theorem isWritable_of_names {b : Block} {path keys : List String} (hpath : b.path = path)
    (hkeys : b.keys = keys) (hheader : path ≠ [] ∧ path.length < depthLimit)
    (hnames : (∀ name ∈ path ++ keys, IsBareName name) ∧ keys.Nodup)
    (hcounts : ∀ pair ∈ b.pairs, pair.2.IsCount) : b.IsWritable ∧ b.HasDistinctKeys := by
  subst hpath hkeys
  obtain ⟨hpath, hkeys⟩ := List.forall_mem_append.mp hnames.1
  exact ⟨⟨hheader.1, hheader.2, hpath, hkeys, hcounts⟩, hnames.2⟩

/-- The members that are read for the table. -/
def members (b : Block) : Members := b.pairs.map fun pair => (pair.1, pair.2.value)

end Block

/-- Add a table that nothing stands for yet. -/
def Members.addTable (members : Members) (b : Block) : Option Members :=
  match members.opened? b.key.path b.key.last with
  | some [] => members.close b.key.path b.key.last b.members
  | _ => none

theorem lookup_eq_none_of_not_mem {members : Members} {key : String}
    (h : key ∉ members.map Prod.fst) : members.lookup key = none := by
  rw [List.lookup_eq_none_iff]
  intro e he
  rw [bne_iff_ne]
  rintro rfl
  exact h (List.mem_map_of_mem he)

theorem add_statement {root current : Members} {place : Section} {pair : String × Content}
    (h : pair.1 ∉ current.map Prod.fst) :
    Draft.add ⟨root, place, current⟩ (statement pair) =
      some ⟨root, place, current ++ [(pair.1, pair.2.value)]⟩ := by
  simp [Draft.add, statement, Members.assign, Members.within, Members.add,
    lookup_eq_none_of_not_mem h]

theorem foldlM_add_statement {root : Members} {place : Section}
    {pairs : List (String × Content)} {current : Members}
    (h : (current.map Prod.fst ++ pairs.map Prod.fst).Nodup) :
    (pairs.map statement).foldlM Draft.add ⟨root, place, current⟩ =
      some ⟨root, place, current ++ pairs.map fun pair => (pair.1, pair.2.value)⟩ := by
  induction pairs generalizing current with
  | nil => simp
  | cons pair pairs ih =>
    have hfresh : pair.1 ∉ current.map Prod.fst := by
      intro hin
      exact (List.nodup_append.mp h).2.2 _ hin _ (by simp) rfl
    have hnext : ((current ++ [(pair.1, pair.2.value)]).map Prod.fst ++
        pairs.map Prod.fst).Nodup := by
      simpa using h
    rw [List.map_cons, List.foldlM_cons, add_statement hfresh]
    simp [ih hnext]

/-- The statements of a table open it where the last one was closed, and fill it. -/
theorem foldlM_add_statements {d : Draft} {b : Block} {root : Members}
    (hclose : d.close = some root) (hopened : root.opened? b.key.path b.key.last = some [])
    (hkeys : b.HasDistinctKeys) :
    b.statements.foldlM Draft.add d = some ⟨root, .table b.key, b.members⟩ := by
  have hheader : d.add (.header b.key) = some ⟨root, .table b.key, []⟩ := by
    simp [Draft.add, hclose, hopened]
  have hpairs : (b.pairs.map statement).foldlM Draft.add ⟨root, .table b.key, []⟩ =
      some ⟨root, .table b.key, b.members⟩ := foldlM_add_statement hkeys
  rw [Block.statements, List.foldlM_cons, hheader]
  exact hpairs

/-- A table is closed by the next header or the end, which is as good as to add it at once. -/
theorem close_foldlM_statements {blocks : List Block} (hkeys : ∀ b ∈ blocks, b.HasDistinctKeys)
    {d : Draft} {root whole : Members} (hclose : d.close = some root)
    (hadd : blocks.foldlM Members.addTable root = some whole) :
    ((blocks.flatMap Block.statements).foldlM Draft.add d).bind Draft.close = some whole := by
  induction blocks generalizing d root with
  | nil => exact hclose.trans hadd
  | cons b blocks ih =>
    obtain ⟨hb, hblocks⟩ := List.forall_mem_cons.mp hkeys
    rw [List.foldlM_cons] at hadd
    obtain ⟨more, htable, hadd⟩ := Option.bind_eq_some_iff.mp hadd
    rw [Members.addTable] at htable
    split at htable
    case h_2 => cases htable
    case h_1 hopened =>
      rw [List.flatMap_cons, List.foldlM_append, foldlM_add_statements hclose hopened hb]
      exact ih hblocks htable hadd

/-- A written document is read as its tables, each in its place. -/
theorem read_write_blocks {blocks : List Block} (h : ∀ b ∈ blocks, b.IsWritable ∧ b.HasDistinctKeys)
    {root : Members} (hadd : blocks.foldlM Members.addTable [] = some root) :
    read (write blocks) = some root := by
  rw [read, statements_write fun b hb => (h b hb).1]
  exact close_foldlM_statements (fun b hb => (h b hb).2) rfl hadd

end AnchoredMetadata.Toml
