import UpdateAgent.File.Writing
import UpdateAgent.Store.Error
import UpdateAgent.Json.Value

/-!
# The document store

JSON documents in files, each under a key in a collection. A collection is a path below the root of
the store and never leads out of it. A document is replaced as a whole or not at all.
-/

namespace UpdateAgent

/-- Documents below a directory. -/
structure Store where
  root : Path
  /-- What the reader of documents says of one that is not what was asked for. The words are its own
  affair; the default stands for any. -/
  complaint : Bytes → String := fun _ => "malformed document"

namespace Store

/-- The part of a path is a name. -/
def isName : Path.Part → Bool
  | .name _ => true
  | _ => false

/-- A key is a single name. -/
def isKey (key : String) : Bool :=
  key ≠ "" && !key.toList.contains '/' && key ≠ "." && key ≠ ".."

/-- The directory of a collection. -/
def directory (store : Store) (collection : Path) : Except StoreError Path :=
  let below := collection.belowRoot
  if below.parts.all isName then .ok (store.root.join below) else .error .invalidPath

/-- The file of a document. -/
def documentPath (store : Store) (collection : Path) (key : String) : Except StoreError Path :=
  if isKey key then do
    let directory ← store.directory collection
    return (directory.child key).withExtension "json".toList
  else .error .invalidPath

/-- What an operation on files comes to in the store. -/
def ofFile {α : Type} : Except FileError α → Except StoreError α
  | .ok a => .ok a
  | .error error => .error (.file error)

/-- Stores a document, in place of the one that was there. The suffix sets the staged file apart. -/
def write (store : Store) (suffix : List Char) (collection : Path) (key : String)
    (document : Json.Value) : Program Disk (Except StoreError Unit) := do
  match store.documentPath collection key with
  | .error error => return .error error
  | .ok path =>
    let ready ← match path.parent? with
      | some parent => Disk.makeDirectories parent
      | none => pure (.ok ())
    match ready with
    | .error error => return .error (.file error)
    | .ok () => return ofFile (← Disk.replace path suffix document.bytes)

/-- Loads a document, if there is one, as what `decode` makes of it. -/
def read {α : Type} (store : Store) (decode : Bytes → Option α) (collection : Path)
    (key : String) : Program Disk (Except StoreError (Option α)) := do
  match store.documentPath collection key with
  | .error error => return .error error
  | .ok path =>
    match ← Disk.readText path with
    | .error (.os 2) => return .ok none
    | .error error => return .error (.file error)
    | .ok text =>
      match decode (Utf8.encode text) with
      | none => return .error (.document (store.complaint (Utf8.encode text)))
      | some a => return .ok (some a)

end Store

end UpdateAgent
