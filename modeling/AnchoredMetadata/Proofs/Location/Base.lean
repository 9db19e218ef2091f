import AnchoredMetadata.Proofs.Location
import AnchoredMetadata.Proofs.Url.Web
import Mathlib.Data.List.DropRight

/-!
# Locations below a base

The segment of an entity is put after the text of the base. Where this text ends in the path, the
segment is a new part of the path; but the text of a base with a query or a fragment ends there, and
so do the locations below it.
-/

namespace AnchoredMetadata

open Url

namespace Location

/-! ## Slashes at the end -/

theorem dropSlashes_concat (cs : List Char) (c : Char) :
    dropSlashes (cs ++ [c]) = if c = '/' then dropSlashes cs else cs ++ [c] := by
  have h := List.rdropWhile_concat (fun c => decide (c = '/')) cs c
  simp only [decide_eq_true_eq] at h
  exact h

/-- Slashes are dropped up to another character. -/
theorem dropSlashes_append_cons {c : Char} (hc : c ≠ '/') (front back : List Char) :
    dropSlashes (front ++ c :: back) = front ++ c :: dropSlashes back := by
  induction back using List.reverseRecOn with
  | nil => rw [dropSlashes_concat, if_neg hc]; rfl
  | append_singleton back d ih =>
    rw [← List.cons_append, ← List.append_assoc, dropSlashes_concat, dropSlashes_concat, ih]
    split
    · rfl
    · rw [List.append_assoc, List.cons_append]

theorem dropSlashes_append {back : List Char} (hne : back ≠ []) (h : '/' ∉ back)
    (front : List Char) : dropSlashes (front ++ back) = front ++ back := by
  obtain rfl | ⟨cs, c, rfl⟩ := List.eq_nil_or_concat back
  · exact absurd rfl hne
  · have hc : c ≠ '/' := by
      rintro rfl
      exact h (by simp)
    rw [List.concat_eq_append, ← List.append_assoc, dropSlashes_concat, if_neg hc]

theorem subset_dropSlashes (cs : List Char) : dropSlashes cs ⊆ cs :=
  (List.rdropWhile_prefix (fun c => decide (c = '/')) cs).subset

/-- The parts of a path without the empty ones at its end. -/
def dropEmpty (parts : List (List Char)) : List (List Char) := parts.rdropWhile List.isEmpty

theorem dropEmpty_concat (parts : List (List Char)) (part : List Char) :
    dropEmpty (parts ++ [part]) = if part = [] then dropEmpty parts else parts ++ [part] := by
  have h := List.rdropWhile_concat List.isEmpty parts part
  simp only [List.isEmpty_iff] at h
  exact h

theorem text_concat (parts : List (List Char)) (part : List Char) :
    (Path.segments (parts ++ [part])).text = (Path.segments parts).text ++ '/' :: part := by
  rw [Path.text, List.flatMap_append, List.flatMap_singleton]
  rfl

/-- Slashes at the end of a path are empty parts at its end. -/
theorem dropSlashes_path {front : List Char} (hfront : dropSlashes front = front)
    {parts : List (List Char)} (h : ∀ part ∈ parts, '/' ∉ part) :
    dropSlashes (front ++ (Path.segments parts).text) =
      front ++ (Path.segments (dropEmpty parts)).text := by
  induction parts using List.reverseRecOn with
  | nil =>
    have hnone : (Path.segments []).text = [] := rfl
    rw [hnone, List.append_nil, hfront]
    exact (List.append_nil front).symm
  | append_singleton parts part ih =>
    rw [List.forall_mem_append, List.forall_mem_singleton] at h
    rw [dropEmpty_concat, text_concat]
    split
    · next hempty =>
      rw [hempty, ← List.append_assoc, dropSlashes_concat, if_pos rfl, ih h.1]
    · next hpart =>
      have hslash := dropSlashes_append hpart h.2 (front ++ ((Path.segments parts).text ++ ['/']))
      rw [text_concat]
      simp only [List.append_assoc, List.singleton_append] at hslash
      exact hslash

/-! ## Below a base -/

/-- A path with a new part at its end. -/
def extended (path : Path) (segment : List Char) : Path :=
  match path with
  | .segments parts => .segments (dropEmpty parts ++ [segment])
  | .opaqueText t => .opaqueText t

/-- The URL whose text is that of a base with a segment after it. -/
def below (base : Url) (segment : List Char) : Url :=
  match base.fragment, base.query with
  | some f, _ => { base with fragment := some (dropSlashes f ++ '/' :: segment) }
  | none, some q => { base with query := some (dropSlashes q ++ '/' :: segment) }
  | none, none => { base with path := extended base.path segment }

/-- The characters before the path. -/
theorem dropSlashes_server {base : Url} (h : base.IsWeb) {a : Authority}
    (ha : base.authority = some a) (front : List Char) :
    dropSlashes (front ++ a.body) = front ++ a.body := by
  have hserver := h.server ha
  refine dropSlashes_append (body_ne_nil hserver) (fun hmem => ?_) front
  have hends := (server_visible hserver '/' hmem).1
  exact absurd hends (by decide)

/-- A path with a new part has its text without the slashes at the end, and the part after it. -/
theorem extended_text {front : List Char} (hfront : dropSlashes front = front)
    {parts : List (List Char)} (hparts : AreParts parts) (segment : List Char) :
    front ++ (extended (.segments parts) segment).text =
      dropSlashes (front ++ (Path.segments parts).text) ++ '/' :: segment := by
  have hwhole : ∀ part ∈ parts, '/' ∉ part := fun part hpart => (hparts.each part hpart).whole.1
  rw [extended, text_concat, dropSlashes_path hfront hwhole, List.append_assoc]

theorem characters_below {base : Url} (h : base.IsWeb) (segment : List Char) :
    (below base segment).characters = dropSlashes base.characters ++ '/' :: segment := by
  obtain ⟨a, ha, -⟩ := h.authority
  obtain ⟨parts, hpath, hparts⟩ := h.path
  -- a query or a fragment starts with a sign that is no slash
  have hsign {sign : Char} (hs : sign ≠ '/') (front t : List Char) :
      front ++ sign :: (dropSlashes t ++ '/' :: segment) =
        dropSlashes (front ++ sign :: t) ++ '/' :: segment := by
    rw [dropSlashes_append_cons hs, List.append_assoc, List.cons_append]
  unfold below
  split
  · next f hfragment =>
    rw [characters, characters, hfragment]
    exact hsign (by decide) _ f
  · next q hfragment hquery =>
    rw [characters, characters, hfragment, hquery, partText, List.append_nil, List.append_nil]
    exact hsign (by decide) _ q
  · next hfragment hquery =>
    have hfront := dropSlashes_server h ha (base.scheme ++ [':', '/', '/'])
    have htext := extended_text hfront hparts segment
    simp only [List.append_assoc, List.cons_append, List.nil_append] at htext
    refine (characters_eq (u := { base with path := extended base.path segment }) ha).trans ?_
    rw [characters_eq ha, hpath]
    simp only [hfragment, hquery, partText, List.append_nil]
    exact htext

/-! ## Segments in a URL -/

theorem mem_segment {id : String} {c : Char} (h : c ∈ segment id) :
    c.isAlphanum = true ∨ c ∈ ['*', '-', '.', '_', '+', '%', '~'] := by
  refine (isSegment_resource id).characters c ?_
  rw [resource, String.toList_ofList]
  exact h

/-- A segment needs no encoding. -/
theorem isPlain_segment {reserved : List Char} (h : KeepsEncoded reserved) (id : String) :
    ∀ c ∈ segment id, IsPlain reserved c :=
  fun _ hc => isPlain_of_encoded h (mem_segment hc)

/-- A segment stands for no other identifier. -/
theorem eq_of_identifierBytes? {id other : String}
    (h : identifierBytes? (segment id) = some (Text.utf8 other)) : id = other := by
  rw [identifierBytes?_segment] at h
  exact Text.utf8_inj.mp (Option.some.inj h)

theorem segment_inj {id other : String} : segment id = segment other ↔ id = other := by
  refine ⟨fun h => eq_of_identifierBytes? ?_, congrArg segment⟩
  rw [h, identifierBytes?_segment]

/-- What stands for an identifier that has another segment is no segment. -/
theorem segment_ne {id other : String} {cs : List Char}
    (hbytes : identifierBytes? cs = some (Text.utf8 other)) (hne : segment other ≠ cs) :
    segment id ≠ cs := by
  rintro rfl
  exact hne (segment_inj.mpr (eq_of_identifierBytes? hbytes).symm)

theorem isPart_segment (id : String) : IsPart (segment id) := by
  have hsingle : ∀ s ∈ [".", "%2e", "%2E"],
      identifierBytes? s.toList = some (Text.utf8 ".") ∧ segment "." ≠ s.toList := by decide
  have hdouble : ∀ s ∈ ["..", ".%2e", ".%2E", "%2e.", "%2E.", "%2e%2e", "%2e%2E", "%2E%2e",
      "%2E%2E"],
      identifierBytes? s.toList = some (Text.utf8 "..") ∧ segment ".." ≠ s.toList := by decide
  refine ⟨isPlain_segment keepsEncoded_path id, ⟨?_, ?_⟩, ?_, ?_⟩
  · exact fun hmem => absurd (mem_segment hmem) (by decide)
  · exact fun hmem => absurd (mem_segment hmem) (by decide)
  · refine List.any_eq_false.mpr fun s hs => ?_
    rw [decide_eq_true_eq]
    exact (segment_ne (hsingle s hs).1 (hsingle s hs).2).symm
  · refine List.any_eq_false.mpr fun s hs => ?_
    rw [decide_eq_true_eq]
    exact (segment_ne (hdouble s hs).1 (hdouble s hs).2).symm

theorem below_authority (base : Url) (segment : List Char) :
    (below base segment).authority = base.authority := by
  unfold below
  split <;> rfl

/-- What is put after a query or a fragment needs no encoding either. -/
theorem isPlain_extended {reserved t : List Char} (h : KeepsEncoded reserved)
    (hslash : IsPlain reserved '/') (ht : ∀ c ∈ t, IsPlain reserved c) (id : String) :
    ∀ c ∈ dropSlashes t ++ '/' :: segment id, IsPlain reserved c := by
  refine List.forall_mem_append.mpr ⟨fun c hc => ht c (subset_dropSlashes t hc), ?_⟩
  exact List.forall_mem_cons.mpr ⟨hslash, isPlain_segment h id⟩

theorem isWeb_below {base : Url} (h : base.IsWeb) (id : String) :
    (below base (segment id)).IsWeb := by
  obtain ⟨parts, hpath, hparts⟩ := h.path
  unfold below
  split
  · next f hfragment =>
    refine ⟨h.scheme, h.authority, h.path, h.query, ?_⟩
    rintro _ ⟨⟩
    exact isPlain_extended keepsEncoded_fragment (by decide) (h.fragment f hfragment) id
  · next q hfragment hquery =>
    refine ⟨h.scheme, h.authority, h.path, ?_, h.fragment⟩
    rintro _ ⟨⟩
    exact isPlain_extended keepsEncoded_query (by decide) (h.query q hquery) id
  · refine ⟨h.scheme, h.authority, ⟨dropEmpty parts ++ [segment id], ?_, ?_⟩, h.query, h.fragment⟩
    · rw [hpath]
      rfl
    · refine ⟨List.concat_ne_nil _ _, List.forall_mem_append.mpr ⟨fun part hpart => ?_, ?_⟩⟩
      · exact hparts.each part ((List.rdropWhile_prefix _ parts).subset hpart)
      · exact List.forall_mem_singleton.mpr (isPart_segment id)

/-- A base with another host. -/
def withHost (base : Url) (host : Host) : Url :=
  { base with authority := base.authority.map fun a => { a with host } }

theorem withHost_host {base : Url} {a : Authority} (ha : base.authority = some a) :
    withHost base a.host = base := by
  rw [withHost, ha, Option.map_some, ← ha]

theorem isWeb_withHost {base : Url} (h : base.IsWeb) {host : Host} (hhost : host.IsServer) :
    (withHost base host).IsWeb := by
  obtain ⟨a, ha, hserver⟩ := h.authority
  refine ⟨h.scheme, ⟨{ a with host }, ?_, ?_⟩, h.path, h.query, h.fragment⟩
  · rw [withHost, ha, Option.map_some]
  · exact ⟨hserver.user, hserver.password, hhost, hserver.port⟩

/-- The location of an entity is the segment after the text of the base, whose host is read anew. -/
theorem ofEntity_eq {base : Url} (h : base.IsWeb) {a : Authority} (ha : base.authority = some a)
    (id : String) :
    ofEntity base id =
      (readHost .web a.host.text).map fun host => below (withHost base host) (segment id) := by
  have hauthority := (below_authority base (segment id)).trans ha
  have hcomm (host : Host) :
      { below base (segment id) with authority := some { a with host } } =
        below (withHost base host) (segment id) := by
    obtain ⟨scheme, authority, path, query, fragment⟩ := base
    cases ha
    cases fragment <;> cases query <;> rfl
  rw [ofEntity, ← characters_below h, readCharacters_written (isWeb_below h id) hauthority]
  exact congrArg (Except.map · _) (funext hcomm)

/-- A location that was found is below the base with the host that was read. -/
theorem exists_host_of_ofEntity {base : Url} (h : base.IsWeb) {a : Authority}
    (ha : base.authority = some a) {id : String} {u : Url} (hu : ofEntity base id = .ok u) :
    ∃ host, readHost .web a.host.text = .ok host ∧ u = below (withHost base host) (segment id) := by
  rw [ofEntity_eq h ha] at hu
  obtain ⟨host, hhost, rfl⟩ := map_eq_ok hu
  exact ⟨host, hhost, rfl⟩

/-- Two locations that were found below one base have the same host. -/
theorem exists_host_of_both {base : Url} (h : base.IsWeb) {id other : String} {u v : Url}
    (hu : ofEntity base id = .ok u) (hv : ofEntity base other = .ok v) :
    ∃ host, host.IsServer ∧ u = below (withHost base host) (segment id) ∧
      v = below (withHost base host) (segment other) := by
  obtain ⟨a, ha, -⟩ := h.authority
  obtain ⟨host, hhost, rfl⟩ := exists_host_of_ofEntity h ha hu
  obtain ⟨again, hagain, rfl⟩ := exists_host_of_ofEntity h ha hv
  rw [hhost] at hagain
  cases hagain
  exact ⟨host, isServer_readHost hhost, rfl, rfl⟩

/-- A base that ends in its path is extended by the segment. -/
theorem below_path_text {base : Url} (h : base.IsWeb) (hquery : base.query = none)
    (hfragment : base.fragment = none) (segment : List Char) :
    (below base segment).path.text = dropSlashes base.path.text ++ '/' :: segment := by
  obtain ⟨parts, hpath, hparts⟩ := h.path
  rw [below, hquery, hfragment, hpath]
  exact extended_text (show dropSlashes [] = [] from rfl) hparts segment

theorem below_path {base : Url} (h : base.query ≠ none ∨ base.fragment ≠ none)
    (segment : List Char) : (below base segment).path = base.path := by
  unfold below
  split
  · rfl
  · rfl
  · next hfragment hquery => exact absurd h (by rw [hquery, hfragment]; decide)

theorem below_withoutFragment {base : Url} (h : base.fragment = none) (segment : List Char) :
    (below base segment).withoutFragment = below base segment := by
  obtain ⟨scheme, authority, path, query, fragment⟩ := base
  cases h
  cases query <;> rfl

/-- A base with a fragment takes every segment into it. -/
theorem below_request {base : Url} (h : base.fragment ≠ none) (segment : List Char) :
    (below base segment).withoutFragment = base.withoutFragment := by
  unfold below
  split
  · rfl
  · next hfragment _ => exact absurd hfragment h
  · next hfragment _ => exact absurd hfragment h

/-- Below a base without a fragment, no two entities have requests with one text. -/
theorem request_ne {base : Url} (h : base.IsWeb) (hfragment : base.fragment = none)
    {id other : String} {u v : Url} (hu : ofEntity base id = .ok u)
    (hv : ofEntity base other = .ok v) (hne : id ≠ other) :
    u.withoutFragment.text ≠ v.withoutFragment.text := by
  obtain ⟨host, hhost, rfl, rfl⟩ := exists_host_of_both h hu hv
  have hweb := isWeb_withHost h hhost
  have hnone : (withHost base host).fragment = none := hfragment
  rw [below_withoutFragment hnone, below_withoutFragment hnone]
  intro htext
  have hcharacters := String.ofList_inj.mp htext
  rw [characters_below hweb, characters_below hweb] at hcharacters
  exact hne (segment_inj.mp (List.cons.inj (List.append_cancel_left hcharacters)).2)

/-- Below a base with a fragment, all entities have one request. -/
theorem request_eq {base : Url} (h : base.IsWeb) (hfragment : base.fragment ≠ none)
    {id other : String} {u v : Url} (hu : ofEntity base id = .ok u)
    (hv : ofEntity base other = .ok v) : u.withoutFragment = v.withoutFragment := by
  obtain ⟨host, -, rfl, rfl⟩ := exists_host_of_both h hu hv
  have hsome : (withHost base host).fragment ≠ none := hfragment
  rw [below_request hsome, below_request hsome]

/-- The location of an entity below a base of the web that was read. It has the scheme of the base,
its credentials and port, and the host that the text of its host is read as; addresses and ordinary
names are read as themselves. After a path the segment is its last part, and all entities have
different requests as long as there is no fragment. But the segment does not reach the path where a
query or a fragment follows it, and with a fragment there is one request for all entities. -/
theorem ofEntity_location {input : List Char} {base : Url} (hread : readCharacters input = .ok base)
    (hweb : schemeKind base.scheme = .web) :
    ∃ a, base.authority = some a ∧
      (∀ id, ofEntity base id = (readHost .web a.host.text).map fun host =>
        below (withHost base host) (segment id)) ∧
      (a.host.IsOrdinary → ∀ id, ofEntity base id = .ok (below base (segment id))) ∧
      (base.query = none → base.fragment = none → ∀ id u, ofEntity base id = .ok u →
        u.path.text = dropSlashes base.path.text ++ '/' :: segment id) ∧
      (base.fragment = none → ∀ id other u v, ofEntity base id = .ok u →
        ofEntity base other = .ok v → id ≠ other →
          u.withoutFragment.text ≠ v.withoutFragment.text) ∧
      (base.query ≠ none ∨ base.fragment ≠ none → ∀ id u, ofEntity base id = .ok u →
        u.path = base.path) ∧
      (base.fragment ≠ none → ∀ id other u v, ofEntity base id = .ok u →
        ofEntity base other = .ok v → u.withoutFragment = v.withoutFragment) := by
  have h := isWeb_of_read hread hweb
  obtain ⟨a, ha, hserver⟩ := h.authority
  refine ⟨a, ha, ofEntity_eq h ha, ?_, ?_, ?_, ?_, ?_⟩
  · intro hordinary id
    rw [ofEntity_eq h ha, readHost_text hserver.host hordinary]
    exact congrArg (fun b => Except.ok (below b (segment id))) (withHost_host ha)
  · intro hquery hfragment id u hu
    obtain ⟨host, hhost, rfl⟩ := exists_host_of_ofEntity h ha hu
    exact below_path_text (isWeb_withHost h (isServer_readHost hhost)) hquery hfragment (segment id)
  · intro hfragment id other u v hu hv hne
    exact request_ne h hfragment hu hv hne
  · intro hafter id u hu
    obtain ⟨host, -, rfl⟩ := exists_host_of_ofEntity h ha hu
    have hboth : (withHost base host).query ≠ none ∨ (withHost base host).fragment ≠ none := hafter
    exact below_path hboth (segment id)
  · intro hfragment id other u v hu hv
    exact request_eq h hfragment hu hv

/-- The base of a source, with or without a query and a fragment. -/
def sampleBase (query fragment : Option (List Char)) : Url :=
  ⟨"https".toList, some ⟨[], [], .name "source.com".toList, some 8443⟩,
    .segments ["metadata".toList, []], query, fragment⟩

/-- Where dots are an identifier they do not lead out of the path of the base. -/
theorem sampleBase_location :
    readCharacters "https://source.com:8443/metadata/".toList = .ok (sampleBase none none) ∧
    schemeKind "https".toList = .web ∧
    ∃ u, ofEntity (sampleBase none none) ".." = .ok u ∧
      u.authority = (sampleBase none none).authority ∧ u.path.text = "/metadata/~..".toList ∧
      ∀ other v, ofEntity (sampleBase none none) other = .ok v → ".." ≠ other →
        u.withoutFragment.text ≠ v.withoutFragment.text := by
  have hread : readCharacters "https://source.com:8443/metadata/".toList =
      .ok (sampleBase none none) := by decide +kernel
  obtain ⟨a, ha, -, hordinary, hpath, hdistinct, -⟩ := ofEntity_location hread rfl
  obtain rfl := Option.some.inj ha
  have hname : (Host.name "source.com".toList).IsOrdinary := ⟨by decide, by decide, by decide⟩
  have hu := hordinary hname ".."
  refine ⟨hread, rfl, _, hu, rfl, (hpath rfl rfl ".." _ hu).trans (by decide), ?_⟩
  exact fun other v hv => hdistinct rfl ".." other _ v hu hv

/-- With a query, the path of the base is not extended, and with a fragment two entities have one
request. -/
theorem sampleBase_outside :
    (readCharacters "https://source.com:8443/metadata/?v=1".toList =
        .ok (sampleBase (some "v=1".toList) none) ∧
      ∃ u, ofEntity (sampleBase (some "v=1".toList) none) "a" = .ok u ∧
        u.path.text ≠ "/metadata".toList ++ '/' :: segment "a") ∧
    (readCharacters "https://source.com:8443/metadata/#v".toList =
        .ok (sampleBase none (some "v".toList)) ∧
      ∃ u v, ofEntity (sampleBase none (some "v".toList)) "a" = .ok u ∧
        ofEntity (sampleBase none (some "v".toList)) "b" = .ok v ∧
        u.withoutFragment = v.withoutFragment) := by
  refine ⟨⟨by decide +kernel, below (sampleBase (some "v=1".toList) none) (segment "a"),
    by decide +kernel, by decide⟩, by decide +kernel, ?_⟩
  exact ⟨below (sampleBase none (some "v".toList)) (segment "a"),
    below (sampleBase none (some "v".toList)) (segment "b"),
    by decide +kernel, by decide +kernel, rfl⟩

end Location

end AnchoredMetadata
