import AnchoredMetadata.Certificate

/-!
# Trust stores

A store is a named map from aliases to certificates that remembers the order
of first insertion. Inserting under a used alias replaces the certificate in
its place.
-/

namespace AnchoredMetadata

/-- A named set of trusted certificates. -/
structure TrustStore where
  /-- The name shown in reports. -/
  name : String
  /-- Each alias with its certificate, in order of first insertion. -/
  entries : List (String × Certificate)

namespace TrustStore

instance : BEq TrustStore := ⟨fun a b => a.name == b.name && a.entries == b.entries⟩

/-- A store that holds nothing. -/
def empty (name : String) : TrustStore := ⟨name, []⟩

/-- Put a certificate under an alias, in the place of the one that is there. -/
def insertEntry (label : String) (c : Certificate) :
    List (String × Certificate) → List (String × Certificate)
  | [] => [(label, c)]
  | (a, d) :: rest =>
    if a = label then (a, c) :: rest else (a, d) :: insertEntry label c rest

/-- Put a certificate under an alias. -/
def insert (store : TrustStore) (label : String) (c : Certificate) : TrustStore :=
  { store with entries := insertEntry label c store.entries }

/-- The alias of the certificate at a position of a chain. -/
def chainAlias (index : Nat) : String := "certificate-" ++ toString index

/-- A store that holds a chain, each certificate under the alias of its position. -/
def ofChain (name : String) (chain : List Certificate) : TrustStore :=
  chain.zipIdx.foldl (fun store (c, i) => store.insert (chainAlias i) c) (empty name)

/-- A store that holds the certificates of a bundle in file order. -/
def ofPem (name : String) (bundle : List UInt8) : Except CertificateError TrustStore :=
  (Certificate.listOfPem bundle).map (ofChain name)

/-- The aliases in store order. -/
def aliases (store : TrustStore) : List String := store.entries.map Prod.fst

/-- The certificates in store order. -/
def certificates (store : TrustStore) : List Certificate := store.entries.map Prod.snd

/-- The certificate under an alias. -/
def find? (store : TrustStore) (label : String) : Option Certificate := store.entries.lookup label

/-- Whether a certificate is held under some alias. -/
def contains (store : TrustStore) (c : Certificate) : Bool := store.certificates.contains c

/-- The number of entries. -/
def size (store : TrustStore) : Nat := store.entries.length

/-- Whether the store holds nothing. -/
def isEmpty (store : TrustStore) : Bool := store.entries.isEmpty

@[simp] theorem name_insert (store : TrustStore) (label : String) (c : Certificate) :
    (store.insert label c).name = store.name := rfl

@[simp] theorem aliases_empty (name : String) : (empty name).aliases = [] := rfl

@[simp] theorem find?_empty (name label : String) : (empty name).find? label = none := rfl

/-- The aliases of entries after an insertion: a new one comes last. -/
theorem map_fst_insertEntry (label : String) (c : Certificate) (es : List (String × Certificate)) :
    (insertEntry label c es).map Prod.fst =
      if label ∈ es.map Prod.fst then es.map Prod.fst else es.map Prod.fst ++ [label] := by
  induction es with
  | nil => rfl
  | cons e rest ih =>
    obtain ⟨a, d⟩ := e
    by_cases h : a = label
    · simp [insertEntry, h]
    · have h' : label ≠ a := fun e => h e.symm
      simp only [insertEntry, h, ↓reduceIte, List.map_cons, ih, List.mem_cons, h', false_or]
      split <;> simp

/-- The aliases after an insertion: a new one comes last. -/
theorem aliases_insert (store : TrustStore) (label : String) (c : Certificate) :
    (store.insert label c).aliases =
      if label ∈ store.aliases then store.aliases else store.aliases ++ [label] :=
  map_fst_insertEntry label c store.entries

end TrustStore

end AnchoredMetadata
