import AnchoredMetadata.Proofs.Except
import AnchoredMetadata.Proofs.Text.Utf8
import AnchoredMetadata.Proofs.Url.Ipv6
import AnchoredMetadata.Url

/-!
# Hosts in a URL

The text of a host that was read is not empty and has none of the characters that end it. Colons
stand in it only between brackets, so a port can be told from it.
-/

namespace AnchoredMetadata.Url

/-- A host that is read for a scheme of the web: an address, or a name of allowed characters that is
no address. -/
def Host.IsServer : Host → Prop
  | .name t => t ≠ [] ∧ (∀ c ∈ t, isForbiddenInDomain c = false) ∧ endsInNumber t = false
  | .ipv4 n => n < 2 ^ 32
  | .ipv6 pieces => IsAddress pieces

theorem domain?_allowed {bytes : List UInt8} {name : List Char} (h : domain? bytes = some name) :
    ∀ c ∈ name, isForbiddenInDomain c = false := by
  obtain ⟨cs, -, h⟩ := Option.bind_eq_some_iff.mp h
  obtain ⟨plain, -, h⟩ := Option.bind_eq_some_iff.mp h
  obtain ⟨shown, -, h⟩ := Option.bind_eq_some_iff.mp h
  simp only at h
  split at h
  · next hboth =>
    obtain rfl := Option.some.inj h
    rw [Bool.and_eq_true, Bool.not_eq_true', List.any_eq_false] at hboth
    exact fun c hc => Bool.eq_false_iff.mpr (hboth.2 c hc)
  · cases h

theorem isServer_bracketedHost {cs : List Char} {host : Host} (h : bracketedHost cs = .ok host) :
    host.IsServer := by
  unfold bracketedHost at h
  split at h
  · cases h
  · split at h
    · next pieces hpieces =>
      cases h
      exact isAddress_ipv6? hpieces
    · cases h

theorem isServer_readHost {cs : List Char} {host : Host} (h : readHost .web cs = .ok host) :
    host.IsServer := by
  simp only [readHost] at h
  split at h
  · cases h
  · unfold domainHost at h
    split at h
    · exact isServer_bracketedHost h
    · split at h
      · cases h
      · cases h
      · next name hne hdomain =>
        split at h
        · split at h
          · next n hn =>
            cases h
            exact ipv4?_lt hn
          · cases h
        · next hnumber =>
          cases h
          exact ⟨hne, domain?_allowed hdomain, Bool.eq_false_iff.mpr hnumber⟩

/-- A character of a host in a URL. -/
def IsHostChar (c : Char) : Prop := 0x20 < c.toNat ∧ c ∉ ['/', '?', '#', '\\', '@']

instance (c : Char) : Decidable (IsHostChar c) := inferInstanceAs (Decidable (_ ∧ _))

theorem isHostChar_of_allowed {c : Char} (h : isForbiddenInDomain c = false) : IsHostChar c := by
  simp only [isForbiddenInDomain, Bool.or_eq_false_iff, decide_eq_false_iff_not,
    List.contains_eq_mem] at h
  refine ⟨by omega, fun hmem => h.2 ?_⟩
  simp only [List.mem_cons, List.not_mem_nil, or_false] at hmem ⊢
  rcases hmem with rfl | rfl | rfl | rfl | rfl <;> decide

theorem isHostChar_digitChar : ∀ d < 16, IsHostChar d.digitChar ∧
    d.digitChar ∉ [':', '[', ']'] := by decide

theorem Host.IsServer.characters {host : Host} (h : host.IsServer) :
    ∀ c ∈ host.text, IsHostChar c := by
  cases host with
  | name t => exact fun c hc => isHostChar_of_allowed (h.2.1 c hc)
  | ipv4 n =>
    intro c hc
    rcases ipv4Text_characters hc with rfl | ⟨d, hd, rfl⟩
    · decide
    · exact (isHostChar_digitChar d (by omega)).1
  | ipv6 ps =>
    intro c hc
    simp only [Host.text, List.mem_append, List.mem_cons, List.not_mem_nil, or_false] at hc
    rcases hc with (rfl | hc) | rfl
    · decide
    · rcases ipv6Text_characters hc with rfl | ⟨d, hd, rfl⟩
      · decide
      · exact (isHostChar_digitChar d hd).1
    · decide

theorem Host.IsServer.text_ne_nil {host : Host} (h : host.IsServer) : host.text ≠ [] := by
  cases host with
  | name t => exact h.1
  | ipv4 n => exact List.append_ne_nil_of_right_ne_nil _ (List.cons_ne_nil _ _)
  | ipv6 ps => exact List.cons_ne_nil _ _

/-- Colons count only outside of brackets. -/
theorem splitPort_append {inBrackets : Bool} {cs : List Char}
    (h : ∀ c ∈ cs, c ≠ '[' ∧ c ≠ ']' ∧ (c = ':' → inBrackets = true)) (rest : List Char) :
    splitPort inBrackets (cs ++ rest) =
      (cs ++ (splitPort inBrackets rest).1, (splitPort inBrackets rest).2) := by
  induction cs with
  | nil => rfl
  | cons c cs ih =>
    obtain ⟨⟨hopen, hclose, hcolon⟩, hcs⟩ := List.forall_mem_cons.mp h
    have hkept : ¬ (c = ':' && !inBrackets) = true := by
      rw [Bool.and_eq_true, decide_eq_true_eq, Bool.not_eq_true']
      intro hc
      rw [hcolon hc.1] at hc
      exact absurd hc.2 (by decide)
    simp only [List.cons_append, splitPort, if_neg hkept, if_neg hopen, if_neg hclose, ih hcs]

theorem splitPort_portText (port : Option Nat) :
    splitPort false (portText port) = ([], port.map (Nat.toDigits 10)) := by
  cases port <;> rfl

theorem splitPort_host {host : Host} (h : host.IsServer) (port : Option Nat) :
    splitPort false (host.text ++ portText port) = (host.text, port.map (Nat.toDigits 10)) := by
  have hplain {cs : List Char} (hcs : ∀ c ∈ cs, c ∉ [':', '[', ']']) :
      splitPort false (cs ++ portText port) = (cs, port.map (Nat.toDigits 10)) := by
    rw [splitPort_append, splitPort_portText, List.append_nil]
    intro c hc
    have hfree := hcs c hc
    simp only [List.mem_cons, List.not_mem_nil, or_false, not_or] at hfree
    exact ⟨hfree.2.1, hfree.2.2, fun hcolon => absurd hcolon hfree.1⟩
  cases host with
  | name t =>
    refine hplain fun c hc hmem => ?_
    have hallowed := h.2.1 c hc
    simp only [List.mem_cons, List.not_mem_nil, or_false] at hmem
    rcases hmem with rfl | rfl | rfl <;> exact absurd hallowed (by decide)
  | ipv4 n =>
    refine hplain fun c hc => ?_
    rcases ipv4Text_characters hc with rfl | ⟨d, hd, rfl⟩
    · decide
    · exact (isHostChar_digitChar d hd).2
  | ipv6 ps =>
    have hinside : ∀ c ∈ ipv6Text ps, c ≠ '[' ∧ c ≠ ']' ∧ (c = ':' → true = true) := by
      intro c hc
      rcases ipv6Text_characters hc with rfl | ⟨d, hd, rfl⟩
      · decide
      · have hfree := (isHostChar_digitChar d hd).2
        simp only [List.mem_cons, List.not_mem_nil, or_false, not_or] at hfree
        exact ⟨hfree.2.1, hfree.2.2, fun _ => rfl⟩
    have hopen (cs : List Char) : splitPort false ('[' :: cs) =
        ('[' :: (splitPort true cs).1, (splitPort true cs).2) := rfl
    have hclose (cs : List Char) : splitPort true (']' :: cs) =
        (']' :: (splitPort false cs).1, (splitPort false cs).2) := rfl
    rw [Host.text, List.cons_append, List.cons_append, hopen, List.append_assoc,
      splitPort_append hinside, List.singleton_append, hclose, splitPort_portText]

/-! ## Reading back -/

/-- A name in lower-case ASCII of which no part stands for other characters. -/
structure IsOrdinaryName (name : List Char) : Prop where
  /-- It is in ASCII. -/
  ascii : isAscii name = true
  /-- It is in lower case. -/
  lower : name.map Char.toLower = name
  /-- No part is one that is written for others. -/
  plain : ∀ label ∈ labels name, encodedMark.isPrefixOf label = false

/-- An address, or an ordinary name. -/
def Host.IsOrdinary : Host → Prop
  | .name t => IsOrdinaryName t
  | .ipv4 _ => True
  | .ipv6 _ => True

theorem joinLabels_labels (name : List Char) : joinLabels (labels name) = name := by
  induction name with
  | nil => rfl
  | cons c rest ih =>
    obtain ⟨first, others, heq⟩ := List.exists_cons_of_ne_nil (labels_ne_nil rest)
    rw [heq] at ih
    by_cases hc : c = '.'
    · rw [hc, labels, heq]
      exact congrArg ('.' :: ·) ih
    · have hpart : '.' ∉ [c] := mt List.mem_singleton.mp (Ne.symm hc)
      rw [← List.singleton_append, labels_append hpart heq]
      cases others with
      | nil => exact congrArg (c :: ·) ih
      | cons next others => exact congrArg (c :: ·) ih

theorem mem_joinLabels {parts : List (List Char)} {label : List Char} (h : label ∈ parts) {c : Char}
    (hc : c ∈ label) : c ∈ joinLabels parts := by
  fun_induction joinLabels parts with
  | case1 => exact absurd h List.not_mem_nil
  | case2 only =>
    obtain rfl := List.mem_singleton.mp h
    exact hc
  | case3 first rest _ ih =>
    rcases List.mem_cons.mp h with rfl | h
    · exact List.mem_append_left _ hc
    · exact List.mem_append_right _ (List.mem_cons_of_mem '.' (ih h))

/-- The parts of a name hold characters of the name. -/
theorem mem_of_mem_labels {name label : List Char} (h : label ∈ labels name) {c : Char}
    (hc : c ∈ label) : c ∈ name := by
  have hmem := mem_joinLabels h hc
  rw [joinLabels_labels] at hmem
  exact hmem

theorem percentDecode_of_not_mem {bytes : List UInt8} (h : 37 ∉ bytes) :
    percentDecode bytes = bytes := by
  fun_induction percentDecode bytes with
  | case1 | case2 => exact absurd List.mem_cons_self h
  | case3 b rest _ ih => rw [ih fun hmem => h (List.mem_cons_of_mem b hmem)]
  | case4 => rfl

theorem percentDecode_utf8Encode {cs : List Char} (h : '%' ∉ cs) :
    percentDecode (Text.utf8Encode cs) = Text.utf8Encode cs := by
  refine percentDecode_of_not_mem fun hmem => ?_
  obtain ⟨c, hc, hb⟩ := List.mem_flatMap.mp hmem
  rcases Text.mem_encodeChar hb with ⟨-, heq⟩ | ⟨-, hhigh⟩
  · have hpercent : '%' = c := Char.toNat_inj.mp heq
    exact h (hpercent ▸ hc)
  · exact absurd hhigh (by decide)

/-- An ASCII label is shown as it is. -/
theorem shownLabel?_ascii {label : List Char} (hascii : isAscii label = true)
    (hplain : encodedMark.isPrefixOf label = false) : shownLabel? label = some label := by
  rw [shownLabel?, hplain]
  change ((guard ((isAscii label || isLabel label) = true) : Option Unit).bind
    fun _ => some label) = some label
  rw [hascii]
  rfl

theorem runsRight_ascii {label : List Char} (h : isAscii label = true) :
    runsRight label = false := by
  refine List.any_eq_false.mpr fun c hc => ?_
  have hlow := of_decide_eq_true (List.all_eq_true.mp h c hc)
  rw [decide_eq_false (Nat.not_le.mpr hlow), Bool.false_and]
  exact Bool.false_ne_true

theorem writtenName?_ordinary {name : List Char} (h : IsOrdinaryName name)
    (hallowed : ∀ c ∈ name, isForbiddenInDomain c = false) : writtenName? name = some name := by
  have hascii : ∀ label ∈ labels name, isAscii label = true := by
    intro label hlabel
    exact List.all_eq_true.mpr fun c hc =>
      List.all_eq_true.mp h.ascii c (mem_of_mem_labels hlabel hc)
  have hshown : (labels name).mapM shownLabel? = some (labels name) := by
    refine (mapM_eq_some_map fun label hlabel => ?_).trans (congrArg some (List.map_id _))
    exact shownLabel?_ascii (hascii label hlabel) (h.plain label hlabel)
  have hordered : areOrdered (labels name) = true := by
    have hright : (labels name).any runsRight = false := List.any_eq_false.mpr fun label hlabel =>
      Bool.eq_false_iff.mp (runsRight_ascii (hascii label hlabel))
    rw [areOrdered, hright, Bool.not_false, Bool.true_or]
  have htext : joinLabels ((labels name).map labelText) = name := by
    have hmap : (labels name).map labelText = labels name :=
      (List.map_congr_left fun label hlabel => if_pos (hascii label hlabel)).trans (List.map_id _)
    rw [hmap, joinLabels_labels]
  have hfree : name.any isForbiddenInDomain = false :=
    List.any_eq_false.mpr fun c hc => Bool.eq_false_iff.mp (hallowed c hc)
  rw [writtenName?, hshown]
  simp only [bind, Option.bind, htext, hordered, hfree]
  rfl

theorem domain?_ordinary {name : List Char} (h : IsOrdinaryName name)
    (hallowed : ∀ c ∈ name, isForbiddenInDomain c = false) :
    domain? (percentDecode (Text.utf8Encode name)) = some name := by
  have hpercent : '%' ∉ name := fun hmem => absurd (hallowed '%' hmem) (by decide)
  have hplain : plainName? name = some name := by
    rw [plainName?, if_pos h.ascii, h.lower]
  rw [percentDecode_utf8Encode hpercent, domain?, Text.utf8Decode?_utf8Encode]
  exact (congrArg (·.bind writtenName?) hplain).trans (writtenName?_ordinary h hallowed)

/-- What a host of ordinary characters is read as. -/
theorem domainHost_ordinary {name : List Char} (h : IsOrdinaryName name) (hne : name ≠ [])
    (hallowed : ∀ c ∈ name, isForbiddenInDomain c = false) :
    domainHost name =
      if endsInNumber name then (ipv4? name).elim (.error .badIpv4) fun n => .ok (.ipv4 n)
      else .ok (.name name) := by
  obtain ⟨c, rest, rfl⟩ := List.exists_cons_of_ne_nil hne
  unfold domainHost
  split
  · next heq =>
    cases heq
    exact absurd (hallowed '[' List.mem_cons_self) (by decide)
  · simp only [domain?_ordinary h hallowed]
    cases ipv4? (c :: rest) <;> rfl

/-- A character of an address of version 4 is allowed, in ASCII and in lower case, and starts no
mark. -/
theorem ipv4Text_ordinary {n : Nat} {c : Char} (h : c ∈ ipv4Text n) :
    c.toNat < 128 ∧ c.toLower = c ∧ c ≠ 'x' ∧ isForbiddenInDomain c = false := by
  have hdigit : ∀ d < 16, d.digitChar.toNat < 128 ∧ d.digitChar.toLower = d.digitChar ∧
      d.digitChar ≠ 'x' ∧ isForbiddenInDomain d.digitChar = false := by decide
  rcases ipv4Text_characters h with rfl | ⟨d, hd, rfl⟩
  · decide
  · exact hdigit d hd

theorem isOrdinaryName_ipv4Text (n : Nat) : IsOrdinaryName (ipv4Text n) := by
  refine ⟨List.all_eq_true.mpr fun c hc => decide_eq_true (ipv4Text_ordinary hc).1, ?_, ?_⟩
  · exact (List.map_congr_left fun c hc => (ipv4Text_ordinary hc).2.1).trans (List.map_id _)
  · intro label hlabel
    rw [← Bool.not_eq_true, List.isPrefixOf_iff_prefix]
    intro hmark
    have hx : 'x' ∈ label := hmark.subset List.mem_cons_self
    exact (ipv4Text_ordinary (mem_of_mem_labels hlabel hx)).2.2.1 rfl

/-- An address and an ordinary name read back as themselves. -/
theorem readHost_text {host : Host} (h : host.IsServer) (hordinary : host.IsOrdinary) :
    readHost .web host.text = .ok host := by
  have hnonempty := h.text_ne_nil
  have hne := List.isEmpty_eq_false_iff.mpr hnonempty
  simp only [readHost, hne, Bool.false_eq_true, if_false]
  cases host with
  | name t =>
    obtain ⟨-, hallowed, hnumber⟩ := h
    rw [Host.text, domainHost_ordinary hordinary hnonempty hallowed, hnumber]
    rfl
  | ipv4 n =>
    have hallowed : ∀ c ∈ ipv4Text n, isForbiddenInDomain c = false :=
      fun c hc => (ipv4Text_ordinary hc).2.2.2
    rw [Host.text, domainHost_ordinary (isOrdinaryName_ipv4Text n) hnonempty hallowed,
      endsInNumber_ipv4Text, if_pos rfl, ipv4?_text h]
    rfl
  | ipv6 pieces =>
    have hlast : (ipv6Text pieces ++ [']']).getLast? = some ']' := List.getLast?_concat
    rw [Host.text, List.cons_append, domainHost, bracketedHost, hlast, if_neg (not_not_intro rfl),
      List.dropLast_concat, ipv6?_text h]

end AnchoredMetadata.Url
