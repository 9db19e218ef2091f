import AnchoredMetadata.Disk
import AnchoredMetadata.Json.Message
import AnchoredMetadata.Json.Record
import AnchoredMetadata.Json.Writer
import AnchoredMetadata.TrustStore

/-!
# Trust stores on a disk

Settings name the file that holds the certificates of a store. The store has
the name of the file unless the settings give another.
-/

namespace AnchoredMetadata

/-- Where a trust store is kept. -/
structure TrustStoreSettings where
  /-- The file with the certificates. -/
  path : Disk.Path
  /-- The name of the store, if it is not that of the file. -/
  name : Option String
  deriving DecidableEq, Repr

namespace TrustStoreSettings

/-- The settings for a file. -/
def ofPath (path : Disk.Path) : TrustStoreSettings := ⟨path, none⟩

/-- The name of the store: the given one, or that of the file, or the whole path if no file is
named. -/
def storeName (s : TrustStoreSettings) : String :=
  match s.name with
  | some name => name
  | none =>
    match s.path.name? with
    | some file => String.ofList (Text.utf8Decode file)
    | none => s.path.shown

/-- Why a store cannot be loaded. -/
inductive LoadError where
  /-- The file cannot be read. -/
  | disk (cause : Disk.Fault)
  /-- The file holds no certificates. -/
  | certificate (cause : CertificateError)
  deriving DecidableEq, Repr

/-- The wording of a failure. -/
def LoadError.message : LoadError → String
  | .disk e => e.message
  | .certificate e => e.message

/-- Load the store. -/
def load (d : Disk) (s : TrustStoreSettings) : Except LoadError TrustStore :=
  match d.read s.path with
  | .error e => .error (.disk e)
  | .ok bundle =>
    match TrustStore.ofPem s.storeName bundle with
    | .error e => .error (.certificate e)
    | .ok store => .ok store

/-! ## As JSON -/

open Json

/-- The settings as a JSON object, unless the path is no text. -/
def write? (s : TrustStoreSettings) : Option (List Char) :=
  s.path.text?.map fun path =>
    writeObject (writeMember "path" (writeString path) ::
      (s.name.map fun name => writeMember "name" (writeString name)).toList)

/-- The fields gathered so far. -/
structure Fields where
  /-- The path. -/
  path : Option String
  /-- The name, or that there is none. -/
  name : Option (Option String)

/-- The path may be given under either of two names. -/
def pathField : Json.Field Fields :=
  ⟨"path", ["path", "trust_store_path"], true, fun s => s.path.isSome, fun bytes =>
    (readString "path string" bytes).map fun (a, rest) => (fun s => { s with path := some a }, rest)⟩

/-- The name, which may be `null`. -/
def nameField : Json.Field Fields :=
  .named "name" false Fields.name (fun s a => { s with name := some a })
    (readOptional (readString "a string"))

/-- Read a document that holds settings. -/
def read (document : List UInt8) : Except Fault TrustStoreSettings :=
  readDocument (fun bytes => do
    let (s, rest) ← readRecord "TrustStoreConfiguration" [pathField, nameField] ⟨none, none⟩
      depthLimit bytes
    match s.path with
    | some path => return (⟨.ofText path, s.name.join⟩, rest)
    | none => throw (.missingField "path")) document

/-- The wording of a fault of a document. -/
def faultText (f : Fault) : String := "json error: " ++ f.message

end TrustStoreSettings

end AnchoredMetadata
