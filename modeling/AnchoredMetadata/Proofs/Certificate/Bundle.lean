import AnchoredMetadata.Proofs.Pem
import AnchoredMetadata.Proofs.TrustStore
import AnchoredMetadata.TrustStore.Settings

/-!
# Certificates of a bundle

A piece of a bundle bears a certificate, or none, or it is at fault. A bundle is read as the
certificates that its pieces bear, in their order, if no piece is at fault and the bundle does not
break off; else the first fault is the result of the whole. The induction is on the pieces: what is
read of a bundle is told from what is read of the bundle without its first piece.
-/

namespace AnchoredMetadata

open Pem Text

namespace Certificate

/-- The label of a block that holds a certificate. -/
def blockLabel : List Char := "CERTIFICATE".toList

/-! ## Wrapped texts -/

/-- Lines hold a text: it is cut into them anywhere, and blanks may stand at their ends. -/
inductive Wraps : List Char → List (List Char) → Prop
  | nil : Wraps [] []
  | line {text : List Char} {lines : List (List Char)} (piece blanks : List Char)
    (hblanks : ∀ c ∈ blanks, isBlank c = true) (h : Wraps text lines) :
    Wraps (piece ++ text) ((piece ++ blanks) :: lines)

/-- Blanks at the end of a line are dropped, and nothing else if the line has no other blanks. -/
theorem trimEnd_append_blanks {piece blanks : List Char} (hpiece : ∀ c ∈ piece, isBlank c = false)
    (hblanks : ∀ c ∈ blanks, isBlank c = true) : trimEnd (piece ++ blanks) = piece := by
  have hdrop : (blanks.reverse ++ piece.reverse).dropWhile isBlank = piece.reverse := by
    rw [List.dropWhile_append_of_pos (by simpa using hblanks)]
    cases hreverse : piece.reverse with
    | nil => rfl
    | cons c rest =>
      have hc : c ∈ piece := by
        rw [← List.mem_reverse, hreverse]
        exact List.mem_cons_self
      simp [hpiece c hc]
  rw [trimEnd, List.reverse_append, hdrop, List.reverse_reverse]

theorem Wraps.flatMap_trimEnd {text : List Char} {lines : List (List Char)} (h : Wraps text lines)
    (htext : ∀ c ∈ text, isBlank c = false) : lines.flatMap trimEnd = text := by
  induction h with
  | nil => rfl
  | line piece blanks hblanks h ih =>
    obtain ⟨hpiece, hrest⟩ := List.forall_mem_append.mp htext
    rw [List.flatMap_cons, trimEnd_append_blanks hpiece hblanks, ih hrest]

/-! ## Pieces -/

/-- What a piece of a bundle bears: a block labelled as one bears the certificate that its content
is read as, and all other pieces bear none. -/
inductive Bears : Piece → Option Certificate → Prop
  | line (l : LineWithout beginMark) : Bears (.line l) none
  | other {w : Written} {content : List UInt8} (hlabel : w.heading.label ≠ blockLabel)
    (hbody : w.Holds content) : Bears (.block w) none
  | certificate {w : Written} {c : Certificate} (hlabel : w.heading.label = blockLabel)
    (hbody : w.Holds c.encoding) (hread : ofEncoding c.encoding = .ok c) : Bears (.block w) (some c)

/-- What is wrong with a block: its body is not base64, whatever its label is, or it is labelled as
a certificate and its content is none. -/
inductive IsFaulty : Piece → CertificateError → Prop
  | body {w : Written} (h : ∀ content, ¬ w.Holds content) :
    IsFaulty (.block w) (.badBlock .invalidBody)
  | content {w : Written} {content : List UInt8} (hlabel : w.heading.label = blockLabel)
    (hbody : w.Holds content) (h : ∀ c, ofEncoding content ≠ .ok c) :
    IsFaulty (.block w) .unreadable

/-- What is wrong with a bundle that breaks off. -/
inductive BreaksOff : Ending → CertificateError → Prop
  | unfinished (heading : Heading) (body : List (LineWithout endMark)) :
    BreaksOff (.unfinished heading body) (.badBlock .incomplete)
  | unclosed (l : LineWith beginMark) (isOpen : ¬ dashes <:+: l.rest) (rest : List Line) :
    BreaksOff (.unclosed l isOpen rest) (.badBlock .invalidHeader)

/-- A block with the text of a certificate, in lines, bears the certificate. -/
theorem bears_of_wraps {w : Written} {c : Certificate} (hlabel : w.heading.label = blockLabel)
    (hread : ofEncoding c.encoding = .ok c)
    (hbody : Wraps c.toBase64.toList (w.body.map (·.text))) : Bears (.block w) (some c) := by
  have hblank : ∀ a ∈ c.toBase64.toList, isBlank a = false := by
    intro a ha
    rw [← removeBlanks_toBase64, removeBlanks, List.mem_filter] at ha
    simpa using ha.2
  have hjoined : joined w.body = c.toBase64.toList := by
    rw [← hbody.flatMap_trimEnd hblank, joined, List.flatMap_map]
  refine .certificate hlabel ⟨[c.encoding], ?_, by simp⟩ hread
  rw [hjoined, ← Text.utf8, toBase64, Base64.utf8_encodeString]
  simp

theorem ofEncoding_cases (content : List UInt8) :
    (∃ c, ofEncoding content = .ok c) ∨ ofEncoding content = .error .unreadable := by
  rw [ofEncoding]
  split
  · exact Or.inl ⟨_, rfl⟩
  · exact Or.inr rfl

/-- A piece bears something, if only nothing, or it is at fault. -/
theorem bears_or_isFaulty (p : Piece) : (∃ found, Bears p found) ∨ ∃ e, IsFaulty p e := by
  cases p with
  | line l => exact Or.inl ⟨none, .line l⟩
  | block w =>
    by_cases hbody : ∃ content, w.Holds content
    case neg => exact Or.inr ⟨_, .body (not_exists.mp hbody)⟩
    obtain ⟨content, hbody⟩ := hbody
    by_cases hlabel : w.heading.label = blockLabel
    case neg => exact Or.inl ⟨none, .other hlabel hbody⟩
    rcases ofEncoding_cases content with ⟨c, hread⟩ | hnone
    · obtain rfl := encoding_of_ofEncoding hread
      exact Or.inl ⟨some c, .certificate hlabel hbody hread⟩
    · refine Or.inr ⟨_, .content hlabel hbody fun c hread => ?_⟩
      rw [hnone] at hread
      cases hread

theorem Bears.not_isFaulty {p : Piece} {found : Option Certificate} {e : CertificateError}
    (h : Bears p found) : ¬ IsFaulty p e := by
  intro hfault
  cases h with
  | line l => cases hfault
  | other hlabel hbody =>
    cases hfault with
    | body hnone => exact hnone _ hbody
    | content hcertificate => exact hlabel hcertificate
  | certificate hlabel hbody hread =>
    cases hfault with
    | body hnone => exact hnone _ hbody
    | content _ hcontent hnone =>
      rw [hcontent.unique hbody] at hnone
      exact hnone _ hread

/-! ## Reading -/

/-- What is read of blocks that were taken off. -/
def gather (found : List (Except Pem.Error Block)) : Except CertificateError (List Certificate) :=
  (found.mapM ofBlock).map fun found => found.filterMap id

theorem gather_cons (block : Except Pem.Error Block) (rest : List (Except Pem.Error Block)) :
    gather (block :: rest) =
      match ofBlock block with
      | .error e => .error e
      | .ok found => (gather rest).map (found.toList ++ ·) := by
  have hcons : (block :: rest).mapM ofBlock = do
      return (← ofBlock block) :: (← rest.mapM ofBlock) := List.mapM_cons
  rw [gather, hcons]
  cases ofBlock block with
  | error e => rfl
  | ok found =>
    cases hrest : rest.mapM ofBlock with
    | error e => simp [gather, hrest, bind, Except.bind, Except.map]
    | ok others =>
      cases found <;> simp [gather, hrest, bind, Except.bind, Except.map, pure, Except.pure]

theorem ofBlock_other {block : Block} (h : block.label ≠ blockLabel) :
    ofBlock (.ok block) = .ok none := if_neg h

theorem ofBlock_certificate {block : Block} (h : block.label = blockLabel) :
    ofBlock (.ok block) = (ofEncoding block.content).map some := if_pos h

/-- What is read of lines that stand between blocks. -/
def readLines (lines : List (List Char)) : Except CertificateError (List Certificate) :=
  gather (blocksFrom .outside (fileLines lines))

theorem listOfPem_bytes (b : Bundle) : listOfPem b.bytes = readLines b.lines := by
  rw [listOfPem, blocks_bytes]
  rfl

/-- A piece that bears a certificate puts it in front of those behind it. -/
theorem Bears.readLines_append {p : Piece} {found : Option Certificate} (h : Bears p found)
    (rest : List (List Char)) :
    readLines (p.lines ++ rest) = (readLines rest).map (found.toList ++ ·) := by
  cases h with
  | line l =>
    have hread : readLines ([l.text] ++ rest) = readLines rest := by
      rw [readLines, List.singleton_append, blocksFrom_skipped, readLines]
    rw [Piece.lines, hread]
    cases readLines rest <;> simp [Except.map]
  | other hlabel hbody =>
    rw [readLines, Piece.lines, blocksFrom_holds hbody, gather_cons, ofBlock_other hlabel]
    rfl
  | certificate hlabel hbody hread =>
    rw [readLines, Piece.lines, blocksFrom_holds hbody, gather_cons, ofBlock_certificate hlabel,
      hread]
    rfl

/-- A fault is the result of the whole, whatever stands behind it. -/
theorem IsFaulty.readLines_append {p : Piece} {e : CertificateError} (h : IsFaulty p e)
    (rest : List (List Char)) : readLines (p.lines ++ rest) = .error e := by
  cases h with
  | body hnone =>
    rw [readLines, Piece.lines, blocksFrom_holds_nothing hnone, gather_cons]
    rfl
  | @content w content hlabel hbody hnone =>
    have hread : ofEncoding content = .error .unreadable := by
      rcases ofEncoding_cases content with ⟨c, hread⟩ | hread
      · exact absurd hread (hnone c)
      · exact hread
    rw [readLines, Piece.lines, blocksFrom_holds hbody, gather_cons, ofBlock_certificate hlabel,
      hread]
    rfl

theorem BreaksOff.readLines_eq {ending : Ending} {e : CertificateError} (h : BreaksOff ending e) :
    readLines ending.lines = .error e := by
  cases h with
  | unfinished heading body =>
    rw [readLines, Ending.lines, blocksFrom_unfinished]
    rfl
  | unclosed l isOpen rest =>
    rw [readLines, Ending.lines, blocksFrom_unclosed l isOpen]
    rfl

/-! ## Bundles -/

/-- A bundle bears certificates: those of its pieces in their order, and it does not break off. -/
structure BundleBears (b : Bundle) (certificates : List Certificate) : Prop where
  /-- The certificates are those of the pieces. -/
  pieces : ∃ found, List.Forall₂ Bears b.pieces found ∧ certificates = found.filterMap id
  /-- Nothing stands behind the pieces. -/
  complete : b.ending = .complete

/-- The first fault of a bundle: that of a piece before which no other one is at fault, or that the
bundle breaks off and no piece is at fault. -/
inductive FailsFirst : Bundle → CertificateError → Prop
  | piece {before after : List Piece} {p : Piece} {ending : Ending} {e : CertificateError}
    (hbefore : ∀ q ∈ before, ∃ found, Bears q found) (h : IsFaulty p e) :
    FailsFirst ⟨before ++ p :: after, ending⟩ e
  | ending {pieces : List Piece} {ending : Ending} {e : CertificateError}
    (hpieces : ∀ q ∈ pieces, ∃ found, Bears q found) (h : BreaksOff ending e) :
    FailsFirst ⟨pieces, ending⟩ e

theorem readLines_pieces {pieces : List Piece} {found : List (Option Certificate)}
    (h : List.Forall₂ Bears pieces found) (rest : List (List Char)) :
    readLines (pieces.flatMap Piece.lines ++ rest) =
      (readLines rest).map (found.filterMap id ++ ·) := by
  induction h with
  | nil => cases hrest : readLines rest <;> simp [hrest, Except.map]
  | cons hp _ ih =>
    rw [List.flatMap_cons, List.append_assoc, hp.readLines_append, ih]
    cases readLines rest with
    | error e => rfl
    | ok certificates => cases hp <;> simp [Except.map]

/-- Pieces that are not at fault change nothing about a fault behind them. -/
theorem readLines_pieces_error {pieces : List Piece} {rest : List (List Char)}
    {e : CertificateError} (h : ∀ q ∈ pieces, ∃ found, Bears q found)
    (hrest : readLines rest = .error e) :
    readLines (pieces.flatMap Piece.lines ++ rest) = .error e := by
  induction pieces with
  | nil => exact hrest
  | cons p pieces ih =>
    obtain ⟨⟨found, hp⟩, hpieces⟩ := List.forall_mem_cons.mp h
    rw [List.flatMap_cons, List.append_assoc, hp.readLines_append, ih hpieces]
    rfl

theorem BundleBears.listOfPem_eq {b : Bundle} {certificates : List Certificate}
    (h : BundleBears b certificates) : listOfPem b.bytes = .ok certificates := by
  obtain ⟨⟨found, hfound, rfl⟩, hending⟩ := h
  have hread := readLines_pieces hfound []
  rw [listOfPem_bytes, Bundle.lines, hending, Ending.lines, hread]
  simp [readLines, fileLines, blocksFrom, gather, Except.map, pure, Except.pure]

theorem FailsFirst.listOfPem_eq {b : Bundle} {e : CertificateError} (h : FailsFirst b e) :
    listOfPem b.bytes = .error e := by
  rw [listOfPem_bytes, Bundle.lines]
  cases h with
  | piece hbefore h =>
    rw [List.flatMap_append, List.append_assoc, List.flatMap_cons, List.append_assoc]
    exact readLines_pieces_error hbefore (h.readLines_append _)
  | ending hpieces h => exact readLines_pieces_error hpieces h.readLines_eq

/-- Pieces all bear something, or there is a first one at fault. -/
theorem bears_or_firstFault (pieces : List Piece) :
    (∃ found, List.Forall₂ Bears pieces found) ∨
      ∃ before p after e, pieces = before ++ p :: after ∧
        (∀ q ∈ before, ∃ found, Bears q found) ∧ IsFaulty p e := by
  induction pieces with
  | nil => exact Or.inl ⟨[], .nil⟩
  | cons p pieces ih =>
    rcases bears_or_isFaulty p with ⟨found, hp⟩ | ⟨e, hp⟩
    · rcases ih with ⟨others, hothers⟩ | ⟨before, q, after, e, rfl, hbefore, hq⟩
      · exact Or.inl ⟨found :: others, .cons hp hothers⟩
      · refine Or.inr ⟨p :: before, q, after, e, rfl, ?_, hq⟩
        rw [List.forall_mem_cons]
        exact ⟨⟨found, hp⟩, hbefore⟩
    · exact Or.inr ⟨[], p, pieces, e, rfl, by simp, hp⟩

theorem exists_bears_of_forall₂ {pieces : List Piece} {found : List (Option Certificate)}
    (h : List.Forall₂ Bears pieces found) : ∀ p ∈ pieces, ∃ found, Bears p found := by
  induction h with
  | nil => simp
  | cons hp _ ih => exact List.forall_mem_cons.mpr ⟨⟨_, hp⟩, ih⟩

/-- A bundle bears certificates, or it has a first fault. -/
theorem bundleBears_or_failsFirst (b : Bundle) :
    (∃ certificates, BundleBears b certificates) ∨ ∃ e, FailsFirst b e := by
  obtain ⟨pieces, ending⟩ := b
  rcases bears_or_firstFault pieces with ⟨found, hfound⟩ | ⟨before, p, after, e, rfl, hbefore, hp⟩
  · have hpieces := exists_bears_of_forall₂ hfound
    cases ending with
    | complete => exact Or.inl ⟨_, ⟨found, hfound, rfl⟩, rfl⟩
    | unfinished heading body => exact Or.inr ⟨_, .ending hpieces (.unfinished heading body)⟩
    | unclosed l isOpen rest => exact Or.inr ⟨_, .ending hpieces (.unclosed l isOpen rest)⟩
  · exact Or.inr ⟨e, .piece hbefore hp⟩

theorem listOfPem_eq_ok_iff {b : Bundle} {certificates : List Certificate} :
    listOfPem b.bytes = .ok certificates ↔ BundleBears b certificates := by
  refine ⟨fun h => ?_, BundleBears.listOfPem_eq⟩
  rcases bundleBears_or_failsFirst b with ⟨others, hbears⟩ | ⟨e, hfails⟩
  · obtain rfl := Except.ok.inj (h.symm.trans hbears.listOfPem_eq)
    exact hbears
  · exact absurd (h.symm.trans hfails.listOfPem_eq) nofun

theorem listOfPem_eq_error_iff {b : Bundle} {e : CertificateError} :
    listOfPem b.bytes = .error e ↔ FailsFirst b e := by
  refine ⟨fun h => ?_, FailsFirst.listOfPem_eq⟩
  rcases bundleBears_or_failsFirst b with ⟨others, hbears⟩ | ⟨first, hfails⟩
  · exact absurd (h.symm.trans hbears.listOfPem_eq) nofun
  · obtain rfl := Except.error.inj (h.symm.trans hfails.listOfPem_eq)
    exact hfails

/-- There is a first fault exactly when there is one anywhere. -/
theorem exists_failsFirst_iff {b : Bundle} :
    (∃ e, FailsFirst b e) ↔
      (∃ p ∈ b.pieces, ∃ e, IsFaulty p e) ∨ ∃ e, BreaksOff b.ending e := by
  constructor
  · rintro ⟨e, h⟩
    cases h with
    | @piece before after p ending e hbefore h => exact Or.inl ⟨p, by simp, e, h⟩
    | ending hpieces h => exact Or.inr ⟨e, h⟩
  · intro h
    rcases bundleBears_or_failsFirst b with ⟨certificates, hbears⟩ | hfails
    case inr => exact hfails
    obtain ⟨⟨found, hfound, -⟩, hending⟩ := hbears
    rcases h with ⟨p, hp, e, hfault⟩ | ⟨e, hbreaks⟩
    · obtain ⟨found, hbears⟩ := exists_bears_of_forall₂ hfound p hp
      exact absurd hfault hbears.not_isFaulty
    · rw [hending] at hbreaks
      cases hbreaks

end Certificate

namespace TrustStoreSettings

open Certificate

variable {d : Disk} {s : TrustStoreSettings} {b : Bundle}

/-- A file that is a bundle makes a store of its certificates, in their order. -/
theorem load_of_bears {certificates : List Certificate} (hfile : d.read s.path = .ok b.bytes)
    (h : BundleBears b certificates) :
    load d s = .ok (TrustStore.ofChain s.storeName certificates) := by
  simp only [load, hfile, TrustStore.ofPem, h.listOfPem_eq, Except.map]

/-- A file that is a bundle with a fault makes no store. -/
theorem load_of_failsFirst {e : CertificateError} (hfile : d.read s.path = .ok b.bytes)
    (h : FailsFirst b e) : load d s = .error (.certificate e) := by
  simp only [load, hfile, TrustStore.ofPem, h.listOfPem_eq, Except.map]

end TrustStoreSettings

namespace Certificate

/-- Every text is a bundle in pieces. It is read as the certificates that its pieces bear, in their
order, each once for each piece, if there are no faults; a block bears a certificate if the lines of
its body hold the certificate's text, cut anywhere and with blanks at the ends of lines. Else the
first fault is the result: a block without an end, or any block with a body that is not base64, or
a certificate's block whose content is none, or a heading that is not closed. A store that is kept
in the file holds the same certificates under the aliases of their positions, or has the same
fault. -/
theorem bundle_read_in_order :
    (∀ text, ∃ b : Bundle, b.text = text) ∧
    (∀ b certificates, listOfPem b.bytes = .ok certificates ↔ BundleBears b certificates) ∧
    (∀ b e, listOfPem b.bytes = .error e ↔ FailsFirst b e) ∧
    (∀ b, (∃ e, FailsFirst b e) ↔
      (∃ p ∈ b.pieces, ∃ e, IsFaulty p e) ∨ ∃ e, BreaksOff b.ending e) ∧
    (∀ (w : Written) c, w.heading.label = blockLabel → ofEncoding c.encoding = .ok c →
      Wraps c.toBase64.toList (w.body.map (·.text)) → Bears (.block w) (some c)) ∧
    ∀ (d : Disk) (s : TrustStoreSettings) (b : Bundle), d.read s.path = .ok b.bytes →
      (∀ certificates, BundleBears b certificates → ∃ store, s.load d = .ok store ∧
        store.name = s.storeName ∧
        store.entries = certificates.zipIdx.map fun (c, i) => (TrustStore.chainAlias i, c)) ∧
      ∀ e, FailsFirst b e → s.load d = .error (.certificate e) := by
  refine ⟨exists_bundle, fun b certificates => listOfPem_eq_ok_iff,
    fun b e => listOfPem_eq_error_iff, fun b => exists_failsFirst_iff,
    fun w c hlabel hread hbody => bears_of_wraps hlabel hread hbody, fun d s b hfile => ⟨?_, ?_⟩⟩
  · intro certificates h
    exact ⟨_, TrustStoreSettings.load_of_bears hfile h, TrustStore.name_ofChain _ _,
      TrustStore.entries_ofChain _ _⟩
  · intro e h
    exact TrustStoreSettings.load_of_failsFirst hfile h

/-- The first half of the sample certificate. -/
def firstHalf : List Char := "MDwwMgIBATADBgEqMAAwGhcLMjQwMTAxMDAwMFoX".toList

/-- The second half of the sample certificate. -/
def secondHalf : List Char := "CzQ5MTIzMTIzNTlaMAAwCDADBgEqAwEAMAMGASoDAQA=".toList

/-- A block with the sample certificate in two lines, which end in carriage returns. -/
def sampleBlock : Written where
  heading := ⟨blockLabel, "----\r".toList, by decide, by decide, by decide⟩
  body := [⟨⟨firstHalf ++ ['\r'], by decide⟩, by decide⟩,
    ⟨⟨secondHalf ++ [' ', '\r'], by decide⟩, by decide⟩]
  last := ⟨"CERTIFICATE-----\r".toList, by decide⟩

/-- A block of another kind. -/
def keyBlock : Written where
  heading := ⟨"PUBLIC KEY".toList, "----".toList, by decide, by decide, by decide⟩
  body := [⟨⟨"AAAA".toList, by decide⟩, by decide⟩]
  last := ⟨"PUBLIC KEY-----".toList, by decide⟩

/-- The sample certificate twice, with a line of text and a key between. -/
def samplePieces : List Piece :=
  [.block sampleBlock, .line ⟨⟨"and again -----BEGIN".toList, by decide⟩, by decide⟩,
    .block keyBlock, .block sampleBlock]

/-- A disk with one file of roots. -/
def sampleDisk (b : Bundle) : Disk := ⟨[([utf8 "roots.pem"], .file b.bytes)], []⟩

/-- A certificate that stands twice is read twice, and nothing is read if a heading follows. -/
theorem samplePieces_read :
    ∃ c, ofBase64 inOneLine = .ok c ∧
      listOfPem (Bundle.mk samplePieces .complete).bytes = .ok [c, c] ∧
      (∃ store, (TrustStoreSettings.ofPath (.ofText "/roots.pem")).load
          (sampleDisk ⟨samplePieces, .complete⟩) = .ok store ∧
        store.name = "roots.pem" ∧
        store.entries = [("certificate-0", c), ("certificate-1", c)]) ∧
      listOfPem (Bundle.mk samplePieces (.unfinished keyBlock.heading [])).bytes =
        .error (.badBlock .incomplete) := by
  obtain ⟨-, hok, herror, -, hwraps, hload⟩ := bundle_read_in_order
  have hseen : (ofBase64 inOneLine).toOption.map toBase64 = some inOneLine := by decide +kernel
  obtain ⟨c, hc, htext⟩ := exists_eq_ok hseen
  have hmade : ofEncoding c.encoding = .ok c := (ofBase64_eq_ok_iff.mp hc).1
  have hlines : Wraps c.toBase64.toList (sampleBlock.body.map (·.text)) := by
    have hhalves : inOneLine.toList = firstHalf ++ (secondHalf ++ []) := by decide +kernel
    rw [htext, hhalves]
    have hreturn : ∀ c ∈ ['\r'], isBlank c = true := by simp [isBlank]
    have hspace : ∀ c ∈ [' ', '\r'], isBlank c = true := by simp [isBlank]
    exact .line firstHalf ['\r'] hreturn (.line secondHalf [' ', '\r'] hspace .nil)
  have hsample : Bears (.block sampleBlock) (some c) := hwraps sampleBlock c rfl hmade hlines
  have hzeros : keyBlock.Holds [0, 0, 0] := ⟨[[0, 0, 0]], by decide +kernel, rfl⟩
  have hkey : Bears (.block keyBlock) none := .other (by decide) hzeros
  have hpieces : List.Forall₂ Bears samplePieces [some c, none, none, some c] :=
    .cons hsample (.cons (.line _) (.cons hkey (.cons hsample .nil)))
  have hbears : BundleBears ⟨samplePieces, .complete⟩ [c, c] := ⟨⟨_, hpieces, rfl⟩, rfl⟩
  have hfile : (sampleDisk ⟨samplePieces, .complete⟩).read (.ofText "/roots.pem") =
      .ok (Bundle.mk samplePieces .complete).bytes := by decide +kernel
  obtain ⟨store, hstore, hname, hentries⟩ :=
    (hload _ (.ofPath (.ofText "/roots.pem")) _ hfile).1 [c, c] hbears
  refine ⟨c, hc, (hok _ _).mpr hbears, ⟨store, hstore, ?_, hentries⟩, ?_⟩
  · rw [hname]
    decide +kernel
  · exact (herror _ _).mpr (.ending (exists_bears_of_forall₂ hpieces) (.unfinished _ _))

end Certificate

end AnchoredMetadata
