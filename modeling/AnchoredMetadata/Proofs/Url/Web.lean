import AnchoredMetadata.Proofs.Url.Authority
import AnchoredMetadata.Proofs.Url.Path

/-!
# URLs of the web read back

What is read for a scheme of the web is a server, a path, and perhaps a query and a fragment, all
encoded. When it is written and read again, nothing is told apart, encoded or resolved in another
way, and only the host is read anew.
-/

namespace AnchoredMetadata.Url

theorem keepsEncoded_query : KeepsEncoded (reservedInQuery .web) := by decide

theorem keepsEncoded_fragment : KeepsEncoded reservedInFragment := by decide

/-- A URL with one of the schemes of the web, as it is read. -/
structure IsWeb (u : Url) : Prop where
  /-- The scheme is one of the web. -/
  scheme : schemeKind u.scheme = .web
  /-- There is a server. -/
  authority : ∃ a, u.authority = some a ∧ a.IsServer u.scheme
  /-- There is a path. -/
  path : ∃ parts, u.path = .segments parts ∧ AreParts parts
  /-- The query needs no encoding. -/
  query : ∀ q, u.query = some q → ∀ c ∈ q, IsPlain (reservedInQuery .web) c
  /-- Nor does the fragment. -/
  fragment : ∀ f, u.fragment = some f → ∀ c ∈ f, IsPlain reservedInFragment c

theorem IsWeb.server {u : Url} (h : u.IsWeb) {a : Authority} (ha : u.authority = some a) :
    a.IsServer u.scheme := by
  obtain ⟨b, hb, hserver⟩ := h.authority
  rw [ha] at hb
  cases hb
  exact hserver

/-! ## Reading -/

theorem query_readQuery {cs q : List Char} (h : readQuery .web cs = some q) :
    ∀ c ∈ q, IsPlain (reservedInQuery .web) c := by
  unfold readQuery at h
  split at h
  · obtain rfl := Option.some.inj h
    exact isPlain_percentEncode keepsEncoded_query _
  · cases h

theorem fragment_readFragment {cs f : List Char} (h : readFragment cs = some f) :
    ∀ c ∈ f, IsPlain reservedInFragment c := by
  unfold readFragment at h
  split at h
  · cases h
  · obtain rfl := Option.some.inj h
    exact isPlain_percentEncode keepsEncoded_fragment _

theorem scheme_readAfterSlashes {kind : SchemeKind} {scheme cs : List Char} {u : Url}
    (h : readAfterSlashes kind scheme cs = .ok u) : u.scheme = scheme := by
  unfold readAfterSlashes at h
  simp only at h
  split at h
  · cases h
  · obtain ⟨⟨a, left⟩, -, h⟩ := bind_eq_ok h
    cases h
    rfl

theorem scheme_readFile {scheme cs : List Char} {u : Url} (h : readFile scheme cs = .ok u) :
    u.scheme = scheme := by
  unfold readFile at h
  simp only at h
  obtain ⟨host, -, h⟩ := bind_eq_ok h
  cases h
  rfl

theorem scheme_readOther {scheme cs : List Char} {u : Url} (h : readOther scheme cs = .ok u) :
    u.scheme = scheme := by
  unfold readOther at h
  split at h
  · exact scheme_readAfterSlashes h
  · cases h
    rfl

theorem isWeb_readAfterSlashes {scheme cs : List Char} {u : Url} (hweb : schemeKind scheme = .web)
    (h : readAfterSlashes .web scheme cs = .ok u) : u.IsWeb := by
  unfold readAfterSlashes at h
  simp only at h
  split at h
  · cases h
  · obtain ⟨⟨a, left⟩, ha, h⟩ := bind_eq_ok h
    cases h
    exact ⟨hweb, ⟨a, rfl, isServer_readAuthority ha⟩, ⟨_, readPath_web _, areParts_readSegments _⟩,
      fun q hq => query_readQuery hq, fun f hf => fragment_readFragment hf⟩

/-- A URL that was read with a scheme of the web is one of the web. -/
theorem isWeb_of_read {input : List Char} {u : Url} (h : readCharacters input = .ok u)
    (hweb : schemeKind u.scheme = .web) : u.IsWeb := by
  unfold readCharacters at h
  simp only at h
  split at h
  · split at h
    · split at h
      · next hfile =>
        rw [scheme_readFile h, hfile] at hweb
        exact absurd hweb (by decide)
      · next hkind => exact isWeb_readAfterSlashes hkind h
      · next hother =>
        rw [scheme_readOther h, hother] at hweb
        exact absurd hweb (by decide)
    · cases h
  · cases h

/-! ## Reading back -/

theorem IsPlain.visible {reserved : List Char} {c : Char} (h : IsPlain reserved c)
    (hspace : ' ' ∈ reserved) : 0x20 < c.toNat := by
  refine Nat.lt_of_le_of_ne h.1 fun heq => h.2.2 ?_
  have hc : c = ' ' := Char.toNat_inj.mp heq.symm
  rw [hc]
  exact hspace

/-- The schemes of the web are written in characters of a scheme, with a letter in front. -/
theorem web_scheme {scheme : List Char} (h : schemeKind scheme = .web) :
    (∀ c ∈ scheme, isSchemeChar c = true ∧ 0x20 < c.toNat) ∧
      (scheme.head?.map Char.isAlpha).getD false = true ∧ scheme.map Char.toLower = scheme := by
  have hall : scheme.all (fun c => isSchemeChar c && 0x20 < c.toNat) = true ∧
      (scheme.head?.map Char.isAlpha).getD false = true ∧ scheme.map Char.toLower = scheme := by
    unfold schemeKind at h
    split at h
    · cases h
    · split at h
      · next hmem =>
        simp only [List.contains_eq_mem, List.mem_cons, List.not_mem_nil, or_false,
          decide_eq_true_eq] at hmem
        rcases hmem with rfl | rfl | rfl | rfl | rfl <;> decide
      · cases h
  refine ⟨fun c hc => ?_, hall.2⟩
  have hboth := List.all_eq_true.mp hall.1 c hc
  rw [Bool.and_eq_true, decide_eq_true_eq] at hboth
  exact hboth

theorem cleaned_visible {cs : List Char} (h : ∀ c ∈ cs, 0x20 < c.toNat) : cleaned cs = cs := by
  have hends {l : List Char} (hl : ∀ c ∈ l, 0x20 < c.toNat) :
      l.dropWhile (fun c => c.toNat ≤ 0x20) = l := by
    cases l with
    | nil => rfl
    | cons c l =>
      refine List.dropWhile_cons_of_neg ?_
      rw [decide_eq_true_eq]
      exact Nat.not_le.mpr (hl c List.mem_cons_self)
  have hback : ∀ c ∈ cs.reverse, 0x20 < c.toNat := fun c hc => h c (List.mem_reverse.mp hc)
  rw [cleaned, hends h, hends hback, List.reverse_reverse, List.filter_eq_self]
  intro c hc
  have hvisible := h c hc
  simp only [Bool.and_eq_true, decide_eq_true_eq]
  refine ⟨⟨?_, ?_⟩, ?_⟩ <;> rintro rfl <;> exact absurd hvisible (by decide)

section
variable {p : Char → Bool} {front rest : List Char} (hfront : ∀ c ∈ front, p c = true)
  (hrest : ∀ c more, rest = c :: more → p c = false)
include hfront hrest

/-- The characters up to the first that fails a test. -/
theorem takeWhile_front : (front ++ rest).takeWhile p = front := by
  rw [List.takeWhile_append_of_pos hfront]
  cases rest with
  | nil => rw [List.takeWhile_nil, List.append_nil]
  | cons c more =>
    rw [List.takeWhile_cons_of_neg (Bool.eq_false_iff.mp (hrest c more rfl)), List.append_nil]

theorem dropWhile_front : (front ++ rest).dropWhile p = rest := by
  rw [List.dropWhile_append_of_pos hfront]
  cases rest with
  | nil => rfl
  | cons c more => exact List.dropWhile_cons_of_neg (Bool.eq_false_iff.mp (hrest c more rfl))

end

/-- A query has no sign that ends it. -/
theorem not_number_of_query {q : List Char} (h : ∀ c ∈ q, IsPlain (reservedInQuery .web) c) :
    ∀ c ∈ q, decide (c ≠ '#') = true := by
  intro c hc
  refine decide_eq_true fun heq => (h c hc).2.2 ?_
  rw [heq]
  decide

theorem partText_head {sign : Char} {text : Option (List Char)} {c : Char} {more : List Char}
    (h : partText sign text = c :: more) : c = sign := by
  cases text with
  | none => cases h
  | some t =>
    cases h
    rfl

theorem readQuery_written {query fragment : Option (List Char)}
    (h : ∀ q, query = some q → ∀ c ∈ q, IsPlain (reservedInQuery .web) c) :
    readQuery .web (partText '?' query ++ partText '#' fragment) = query := by
  cases query with
  | none => cases fragment <;> rfl
  | some q =>
    have hplain := h q rfl
    have htake : (q ++ partText '#' fragment).takeWhile (· ≠ '#') = q :=
      takeWhile_front (not_number_of_query hplain) fun c more heq => by
        rw [partText_head heq]
        rfl
    rw [partText, List.cons_append, readQuery, htake, percentEncode_plain hplain]

theorem readFragment_written {query fragment : Option (List Char)}
    (hquery : ∀ q, query = some q → ∀ c ∈ q, IsPlain (reservedInQuery .web) c)
    (hfragment : ∀ f, fragment = some f → ∀ c ∈ f, IsPlain reservedInFragment c) :
    readFragment (partText '?' query ++ partText '#' fragment) = fragment := by
  have hfront : ∀ c ∈ partText '?' query, decide (c ≠ '#') = true := by
    cases query with
    | none => exact nofun
    | some q => exact List.forall_mem_cons.mpr ⟨rfl, not_number_of_query (hquery q rfl)⟩
  have hdrop : (partText '?' query ++ partText '#' fragment).dropWhile (· ≠ '#') =
      partText '#' fragment :=
    dropWhile_front hfront fun c more heq => by
      rw [partText_head heq]
      rfl
  rw [readFragment, hdrop]
  cases fragment with
  | none => rfl
  | some f => exact congrArg some (percentEncode_plain (hfragment f rfl))

theorem endsAuthority_eq_false {c : Char} (h : c ∉ ['/', '?', '#', '\\']) :
    endsAuthority .web c = false := by
  simp only [List.mem_cons, List.not_mem_nil, or_false, not_or] at h
  simp only [endsAuthority, SchemeKind.isSpecial, Bool.true_and, Bool.or_eq_false_iff,
    decide_eq_false_iff_not]
  exact ⟨⟨⟨h.1, h.2.1⟩, h.2.2.1⟩, h.2.2.2⟩

theorem mem_credentialsText {a : Authority} {c : Char} (h : c ∈ a.credentialsText) :
    c ∈ a.user ∨ c ∈ a.password ∨ c = ':' ∨ c = '@' := by
  unfold Authority.credentialsText at h
  split at h
  · exact absurd h List.not_mem_nil
  · split at h <;>
    · simp only [List.mem_append, List.mem_cons, List.not_mem_nil, or_false] at h
      grind

/-- The text of a server, with its credentials, ends where the path starts. -/
theorem server_visible {scheme : List Char} {a : Authority} (h : a.IsServer scheme) :
    ∀ c ∈ a.body, endsAuthority .web c = false ∧ 0x20 < c.toNat := by
  have huser {c : Char} (hc : IsPlain reservedInUser c) :
      endsAuthority .web c = false ∧ 0x20 < c.toNat := by
    have hsubset : ['/', '?', '#', '\\'] ⊆ reservedInUser := by decide
    exact ⟨endsAuthority_eq_false fun hmem => hc.2.2 (hsubset hmem), hc.visible (by decide)⟩
  refine List.forall_mem_append.mpr ⟨fun c hc => ?_, fun c hc => ?_⟩
  · rcases mem_credentialsText hc with hc | hc | rfl | rfl
    · exact huser (h.user c hc)
    · exact huser (h.password c hc)
    · decide
    · decide
  · obtain ⟨hvisible, hfree⟩ := server_characters h c hc
    have hsubset : ['/', '?', '#', '\\'] ⊆ ['/', '?', '#', '\\', '@'] := by decide
    exact ⟨endsAuthority_eq_false fun hmem => hfree (hsubset hmem), hvisible⟩

/-- The characters of a URL of the web, part by part. -/
theorem characters_eq {u : Url} {a : Authority} (ha : u.authority = some a) :
    u.characters = u.scheme ++ ':' :: '/' :: '/' ::
      (a.body ++ (u.path.text ++ (partText '?' u.query ++ partText '#' u.fragment))) := by
  rw [characters, ha]
  simp only [Authority.text, Authority.body, List.append_assoc, List.cons_append]

theorem path_visible {parts : List (List Char)} (h : AreParts parts) :
    ∀ c ∈ (Path.segments parts).text, (c ≠ '?' ∧ c ≠ '#') ∧ 0x20 < c.toNat := by
  intro c hc
  obtain ⟨part, hpart, hc⟩ := List.mem_flatMap.mp hc
  rcases List.mem_cons.mp hc with rfl | hc
  · decide
  · have hplain := (h.each part hpart).plain c hc
    have hfree (d : Char) (hd : d ∈ reservedInPath) : c ≠ d := by
      rintro rfl
      exact hplain.2.2 hd
    exact ⟨⟨hfree '?' (by decide), hfree '#' (by decide)⟩, hplain.visible (by decide)⟩

theorem partText_visible {sign : Char} (hsign : 0x20 < sign.toNat) {reserved : List Char}
    (hspace : ' ' ∈ reserved) {text : Option (List Char)}
    (h : ∀ t, text = some t → ∀ c ∈ t, IsPlain reserved c) :
    ∀ c ∈ partText sign text, 0x20 < c.toNat := by
  cases text with
  | none => exact nofun
  | some t => exact List.forall_mem_cons.mpr ⟨hsign, fun c hc => (h t rfl c hc).visible hspace⟩

theorem IsWeb.visible {u : Url} (h : u.IsWeb) : ∀ c ∈ u.characters, 0x20 < c.toNat := by
  obtain ⟨a, ha, hserver⟩ := h.authority
  obtain ⟨parts, hpath, hparts⟩ := h.path
  rw [characters_eq ha, hpath]
  simp only [List.forall_mem_append, List.forall_mem_cons]
  exact ⟨fun c hc => ((web_scheme h.scheme).1 c hc).2, by decide, by decide, by decide,
    fun c hc => (server_visible hserver c hc).2, fun c hc => (path_visible hparts c hc).2,
    partText_visible (by decide) (by decide) h.query,
    partText_visible (by decide) (by decide) h.fragment⟩

theorem body_ne_nil {scheme : List Char} {a : Authority} (h : a.IsServer scheme) : a.body ≠ [] :=
  List.append_ne_nil_of_right_ne_nil _ (List.append_ne_nil_of_left_ne_nil h.host.text_ne_nil _)

/-- A text is no bare sign of credentials if it has a host. -/
theorem body_ne_sign {scheme : List Char} {a : Authority} (h : a.IsServer scheme) :
    a.body ≠ ['@'] := by
  intro heq
  obtain ⟨c, cs, hc⟩ := List.exists_cons_of_ne_nil h.host.text_ne_nil
  have hhost : c ∈ a.host.text := by
    rw [hc]
    exact List.mem_cons_self
  have hbody : c ∈ a.body :=
    List.mem_append_right _ (List.mem_append_left _ hhost)
  rw [heq, List.mem_singleton] at hbody
  have hfree := (h.host.characters c hhost).2
  rw [hbody] at hfree
  exact hfree (by decide)

theorem readAfterSlashes_written {u : Url} (h : u.IsWeb) {a : Authority}
    (hserver : a.IsServer u.scheme) :
    readAfterSlashes .web u.scheme
        (a.body ++ (u.path.text ++ (partText '?' u.query ++ partText '#' u.fragment))) =
      (readHost .web a.host.text).map fun host => { u with authority := some { a with host } } := by
  obtain ⟨parts, hpath, hparts⟩ := h.path
  have hhead : (a.body ++ (u.path.text ++
      (partText '?' u.query ++ partText '#' u.fragment))).takeWhile
        (fun c => !endsAuthority .web c) = a.body := by
    refine takeWhile_front (fun c hc => ?_) fun c more heq => ?_
    · rw [(server_visible hserver c hc).1]
      rfl
    · obtain ⟨part, rest, rfl⟩ := List.exists_cons_of_ne_nil hparts.ne_nil
      rw [hpath] at heq
      cases heq
      rfl
  have hbefore : beforeQuery (u.path.text ++ (partText '?' u.query ++ partText '#' u.fragment)) =
      u.path.text := by
    refine takeWhile_front (fun c hc => ?_) fun c more heq => ?_
    · rw [hpath] at hc
      rw [Bool.and_eq_true, decide_eq_true_eq, decide_eq_true_eq]
      exact (path_visible hparts c hc).1
    · cases hquery : u.query with
      | some q =>
        rw [hquery] at heq
        cases heq
        rfl
      | none =>
        rw [hquery] at heq
        rw [partText_head heq]
        rfl
  unfold readAfterSlashes
  simp only [hhead, List.drop_left, decide_eq_false (body_ne_sign hserver), Bool.false_and,
    Bool.false_eq_true, if_false, readAuthority_written hserver]
  cases readHost .web a.host.text with
  | error e => rfl
  | ok host =>
    have hreadPath : readPath .web u.path.text = u.path := by
      rw [hpath]
      exact readPath_text hparts
    simp only [Except.map, bind, Except.bind, List.nil_append, hbefore, List.drop_left, withTail,
      hreadPath, readQuery_written h.query, readFragment_written h.query h.fragment]
    rfl

/-- A written URL of the web is read as it is, with its host read anew. -/
theorem readCharacters_written {u : Url} (h : u.IsWeb) {a : Authority} (ha : u.authority = some a) :
    readCharacters u.characters =
      (readHost .web a.host.text).map fun host => { u with authority := some { a with host } } := by
  have hserver := h.server ha
  obtain ⟨hscheme, hletter, hlower⟩ := web_scheme h.scheme
  have hword (rest : List Char) : (u.scheme ++ ':' :: rest).takeWhile isSchemeChar = u.scheme :=
    takeWhile_front (fun c hc => (hscheme c hc).1) fun c more heq => by
      cases heq
      rfl
  -- the slashes before the server are dropped, and it does not start with one
  have hslashes (rest : List Char) : ('/' :: '/' :: (a.body ++ rest)).dropWhile
      (fun c => c = '/' || c = '\\') = a.body ++ rest := by
    obtain ⟨c, more, hc⟩ := List.exists_cons_of_ne_nil (body_ne_nil hserver)
    have hends := (server_visible hserver c (hc ▸ List.mem_cons_self)).1
    simp only [endsAuthority, SchemeKind.isSpecial, Bool.true_and, Bool.or_eq_false_iff] at hends
    have hfront : ∀ c ∈ ['/', '/'], (decide (c = '/') || decide (c = '\\')) = true :=
      List.forall_mem_cons.mpr ⟨rfl, List.forall_mem_singleton.mpr rfl⟩
    rw [hc]
    refine dropWhile_front hfront fun d others heq => ?_
    cases heq
    rw [hends.1.1.1, hends.2]
    rfl
  have hclean := cleaned_visible h.visible
  unfold readCharacters
  rw [hclean, characters_eq ha]
  simp only [hword, List.drop_left, hletter, if_true, hlower, h.scheme, hslashes]
  exact readAfterSlashes_written h hserver

end AnchoredMetadata.Url
