import UpdateAgent.File.Disk

/-!
# Writing files

Directories are made from the top down. A file is written beside its place and then moved into it,
so that whoever looks sees the old content or the new one, and nothing else.
-/

namespace UpdateAgent.Disk

/-- A directory that cannot be made may be there already. -/
def settle (path : Path) (result : Except FileError Unit) :
    Program Disk (Except FileError Unit) := do
  match result with
  | .ok () => return .ok ()
  | .error error => if ← isDirectory path then return .ok () else return .error error

/-- Makes the directories of at most `depth` levels up to a path, unless they are there. -/
def makeLevels : Nat → Path → Program Disk (Except FileError Unit)
  | 0, _ => return .error (.other "failed to create whole tree")
  | depth + 1, path => do
    if path.chars.isEmpty then return .ok ()
    match ← makeDirectory path with
    | .error (.os 2) =>
      match path.parent? with
      | none => return .error (.other "failed to create whole tree")
      | some parent =>
        match ← makeLevels depth parent with
        | .error error => return .error error
        | .ok () => settle path (← makeDirectory path)
    | result => settle path result

/-- Makes a directory and those above it, unless they are there. A path has fewer levels than
characters, and one more for the empty path above them. -/
def makeDirectories (path : Path) : Program Disk (Except FileError Unit) :=
  makeLevels (path.chars.length + 1) path

/-- Moves a staged file into its place. If it cannot be moved it is removed. -/
def commit (staged path : Path) : Program Disk (Except FileError Unit) := do
  match ← rename staged path with
  | .error error =>
    discard (remove staged)
    return .error error
  | .ok () =>
    if let some parent := path.parent? then
      discard (syncDirectory parent)
    return .ok ()

/-- Writes to a file that was created, and waits until it is on the disk. -/
def fill (path : Path) (content : Bytes) : Program Disk (Except FileError Unit) := do
  match ← write path content with
  | .error error => return .error error
  | .ok () => sync path

/-- Replaces the content of a file as a whole. The suffix sets the staged file apart. -/
def replace (path : Path) (suffix : List Char) (content : Bytes) :
    Program Disk (Except FileError Unit) := do
  let staged := path.staging suffix
  match ← create staged with
  | .error error => return .error error
  | .ok () =>
    match ← fill staged content with
    | .error error =>
      discard (remove staged)
      return .error error
    | .ok () => commit staged path

/-- Writes a file in its place, and makes the directories that it lies in. -/
def plant (path : Path) (content : Bytes) : Program Disk (Except FileError Unit) := do
  if let some parent := path.parent? then
    discard (makeDirectories parent)
  match ← create path with
  | .error error => return .error error
  | .ok () => fill path content

/-- The text of a file. -/
def readText (path : Path) : Program Disk (Except FileError (List Char)) := do
  match ← read path with
  | .error error => return .error error
  | .ok content =>
    match Utf8.decode? content with
    | none => return .error .notText
    | some text => return .ok text

end UpdateAgent.Disk
