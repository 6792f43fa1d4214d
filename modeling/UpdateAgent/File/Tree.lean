import UpdateAgent.File.Path
import UpdateAgent.File.Error

/-!
# File trees

A tree of directories and files without links, and the operations of a file system on it. Every
operation finds its way along a path first: all names but the last must lead through directories. An
operation that fails leaves the tree as it was.
-/

namespace UpdateAgent

/-- A name in a directory. -/
abbrev Name := List Char

/-- The names that lead from the root to a place. -/
abbrev Place := List Name

/-- What a name can stand for. -/
inductive Entry
  | directory
  | file (content : Bytes)
  deriving DecidableEq

/-- The entries below the root, each with its place. -/
structure Tree where
  entries : List (Place × Entry) := []

namespace Tree

/-- What there is at a place. The root is a directory. -/
def entry? (t : Tree) (place : Place) : Option Entry :=
  if place = [] then some .directory else t.entries.lookup place

/-- Takes away what there is at a place. -/
def erase (t : Tree) (place : Place) : Tree :=
  ⟨t.entries.filter (·.1 ≠ place)⟩

/-- Puts an entry at a place. -/
def insert (t : Tree) (place : Place) (entry : Entry) : Tree :=
  ⟨(place, entry) :: (t.erase place).entries⟩

/-- One place lies below another, or is the same. -/
def isBelow (place directory : Place) : Bool :=
  directory.isPrefixOf place

/-- Something lies below a directory. -/
def isOccupied (t : Tree) (directory : Place) : Bool :=
  t.entries.any fun (place, _) => isBelow place directory && place != directory

/-- Moves an entry and all that lies below it. What was there before goes away. -/
def move (t : Tree) (source target : Place) : Tree :=
  let (moved, others) := t.entries.partition fun (place, _) => isBelow place source
  let kept := others.filter (·.1 ≠ target)
  ⟨moved.map (fun (place, entry) => (target ++ place.drop source.length, entry)) ++ kept⟩

/-- The bytes that a name may have. -/
def nameLimit : Nat := 255

/-- The bytes that a path must stay below. -/
def pathLimit : Nat := 4096

/-- The last piece of a path. -/
inductive Last
  | here
  | up
  | name (name : Name)
  deriving DecidableEq

/-- Where a path leads: the directory that all pieces but the last lead to, the last piece, and
whether slashes follow it. -/
structure Location where
  directory : Place
  last : Last
  isSlashed : Bool

/-- The place of a name in a directory. -/
def lookup (directory : Place) (name : Name) : Except FileError Place :=
  if nameLimit < (Utf8.encode name).length then .error .nameTooLong else .ok (directory ++ [name])

/-- Goes from one directory to another. -/
def enter (t : Tree) (place : Place) (piece : List Char) : Except FileError Place :=
  if piece = ['.'] then .ok place
  else if piece = ['.', '.'] then .ok place.dropLast
  else
    match lookup place piece with
    | .error error => .error error
    | .ok place =>
      match t.entry? place with
      | none => .error .notFound
      | some (.file _) => .error .notDirectory
      | some .directory => .ok place

/-- The path can be given to the file system. -/
def check (p : Path) : Except FileError Unit :=
  if '\x00' ∈ p.chars then .error .nulInName
  else if p.chars.isEmpty then .error .notFound
  else if pathLimit ≤ (Utf8.encode p.chars).length then .error .nameTooLong
  else .ok ()

/-- Follows a path up to its last piece. A path that does not start at the root is followed from
there as well. -/
def locate (t : Tree) (p : Path) : Except FileError Location := do
  check p
  let isSlashed := p.chars.getLast? == some '/'
  match ((Path.pieces p.chars).filter (!·.isEmpty)).reverse with
  | [] => return ⟨[], .here, isSlashed⟩
  | last :: before =>
    let directory ← before.reverse.foldlM t.enter []
    if last = ['.'] then return ⟨directory, .here, isSlashed⟩
    else if last = ['.', '.'] then return ⟨directory, .up, isSlashed⟩
    else return ⟨directory, .name last, isSlashed⟩

/-- What a path leads to. -/
def find (t : Tree) (p : Path) : Except FileError (Place × Entry) := do
  let location ← t.locate p
  match location.last with
  | .here => return (location.directory, .directory)
  | .up => return (location.directory.dropLast, .directory)
  | .name name =>
    let place ← lookup location.directory name
    match t.entry? place with
    | none => throw .notFound
    | some .directory => return (place, .directory)
    | some (.file content) =>
      if location.isSlashed then throw .notDirectory
      return (place, .file content)

/-- The path leads to a directory. -/
def isDirectory (t : Tree) (p : Path) : Bool :=
  match t.find p with
  | .ok (_, .directory) => true
  | _ => false

/-- The content of a file. -/
def read (t : Tree) (p : Path) : Except FileError Bytes := do
  match ← t.find p with
  | (_, .directory) => throw .isDirectory
  | (_, .file content) => return content

/-- Makes a directory. -/
def makeDirectory (t : Tree) (p : Path) : Except FileError Tree := do
  let location ← t.locate p
  match location.last with
  | .here | .up => throw .alreadyExists
  | .name name =>
    let place ← lookup location.directory name
    match t.entry? place with
    | some _ => throw .alreadyExists
    | none => return t.insert place .directory

/-- Makes an empty file, or empties the one there is. -/
def create (t : Tree) (p : Path) : Except FileError Tree := do
  let location ← t.locate p
  match location.last with
  | .here | .up => throw .isDirectory
  | .name name =>
    if location.isSlashed then throw .isDirectory
    let place ← lookup location.directory name
    match t.entry? place with
    | some .directory => throw .isDirectory
    | _ => return t.insert place (.file [])

/-- Replaces the content of a file that was created. -/
def write (t : Tree) (p : Path) (content : Bytes) : Tree :=
  match t.find p with
  | .ok (place, .file _) => t.insert place (.file content)
  | _ => t

/-- Removes a file. -/
def remove (t : Tree) (p : Path) : Except FileError Tree := do
  let location ← t.locate p
  match location.last with
  | .here | .up => throw .isDirectory
  | .name name =>
    let place ← lookup location.directory name
    match t.entry? place with
    | none => throw .notFound
    | some .directory => throw .isDirectory
    | some (.file _) =>
      if location.isSlashed then throw .notDirectory
      return t.erase place

/-- What moves from one place to the other may do so: a directory not into itself and only onto an
empty directory, a file only onto a file. -/
def checkMove (t : Tree) (source target : Place) (entry : Entry) : Except FileError Unit :=
  if source ≠ target ∧ isBelow target source then .error .invalid
  else if source ≠ target ∧ isBelow source target then .error .notEmpty
  else
    match entry, t.entry? target with
    | _, none => .ok ()
    | .directory, some (.file _) => .error .notDirectory
    | .file _, some .directory => .error .isDirectory
    | .file _, some (.file _) => .ok ()
    | .directory, some .directory =>
      if source ≠ target ∧ t.isOccupied target then .error .notEmpty else .ok ()

/-- Moves a file or a directory; what the target names is replaced. -/
def rename (t : Tree) (source target : Path) : Except FileError Tree := do
  let source ← t.locate source
  let target ← t.locate target
  match source.last, target.last with
  | .name old, .name new =>
    let sourcePlace ← lookup source.directory old
    match t.entry? sourcePlace with
    | none => throw .notFound
    | some entry =>
      let targetPlace ← lookup target.directory new
      if entry ≠ .directory ∧ (source.isSlashed ∨ target.isSlashed) then throw .notDirectory
      checkMove t sourcePlace targetPlace entry
      return if sourcePlace = targetPlace then t else t.move sourcePlace targetPlace
  | _, _ => throw .busy

/-- Removes a file, or a directory with all that lies below it. -/
def prune (t : Tree) (p : Path) : Tree :=
  match t.find p with
  | .ok (place, _) => ⟨t.entries.filter fun (other, _) => !isBelow other place⟩
  | .error _ => t

/-- The entries below a directory, with their paths from there. -/
def below (t : Tree) (directory : Place) : List (String × Entry) :=
  (t.entries.filter fun (place, _) => isBelow place directory && place != directory).map
    fun (place, entry) =>
      (String.ofList (Path.joined (place.drop directory.length)), entry)

end Tree

end UpdateAgent
