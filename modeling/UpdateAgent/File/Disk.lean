import UpdateAgent.Program
import UpdateAgent.File.Tree

/-!
# Disks

What a program can ask of a disk, one step at a time, and a disk that keeps a tree. Since a program
is the list of its steps, it can be stopped after any of them, as by a power cut.
-/

namespace UpdateAgent

/-- A step on a disk. -/
inductive DiskCall
  | makeDirectory (path : Path)
  | isDirectory (path : Path)
  | create (path : Path)
  | write (path : Path) (content : Bytes)
  | sync (path : Path)
  | rename (source target : Path)
  | remove (path : Path)
  | syncDirectory (path : Path)
  | read (path : Path)

/-- The reply to each step. -/
abbrev DiskReply : DiskCall → Type
  | .isDirectory _ => Bool
  | .read _ => Except FileError Bytes
  | _ => Except FileError Unit

/-- The surroundings of a program that works on files. -/
abbrev Disk : Interface where
  Call := DiskCall
  Reply := DiskReply

namespace Disk

/-- Makes a directory. -/
def makeDirectory (path : Path) : Program Disk (Except FileError Unit) :=
  .request Disk (.makeDirectory path)

/-- Whether a path leads to a directory. -/
def isDirectory (path : Path) : Program Disk Bool :=
  .request Disk (.isDirectory path)

/-- Creates an empty file, or empties the one there is. -/
def create (path : Path) : Program Disk (Except FileError Unit) :=
  .request Disk (.create path)

/-- Writes to a file that was created. -/
def write (path : Path) (content : Bytes) : Program Disk (Except FileError Unit) :=
  .request Disk (.write path content)

/-- Waits until what was written to a file is on the disk. -/
def sync (path : Path) : Program Disk (Except FileError Unit) :=
  .request Disk (.sync path)

/-- Moves a file over another. -/
def rename (source target : Path) : Program Disk (Except FileError Unit) :=
  .request Disk (.rename source target)

/-- Removes a file. -/
def remove (path : Path) : Program Disk (Except FileError Unit) :=
  .request Disk (.remove path)

/-- Waits until the entries of a directory are on the disk. -/
def syncDirectory (path : Path) : Program Disk (Except FileError Unit) :=
  .request Disk (.syncDirectory path)

/-- The content of a file. -/
def read (path : Path) : Program Disk (Except FileError Bytes) :=
  .request Disk (.read path)

/-- What a step that may change the tree replies, and the tree after it. -/
def changed (t : Tree) : Except FileError Tree → Except FileError Unit × Tree
  | .ok t => (.ok (), t)
  | .error error => (.error error, t)

/-- A disk that keeps a tree and on which no file grows beyond `limit` bytes, if there is a
limit. -/
def answer (limit : Option Nat) : (c : DiskCall) → Tree → DiskReply c × Tree
  | .makeDirectory path, t => changed t (t.makeDirectory path)
  | .isDirectory path, t => (t.isDirectory path, t)
  | .create path, t => changed t (t.create path)
  | .write path content, t =>
    if limit.all (content.length ≤ ·) then (.ok (), t.write path content)
    else (.error .tooLarge, t.write path (content.take (limit.getD 0)))
  | .sync _, t => (.ok (), t)
  | .rename source target, t => changed t (t.rename source target)
  | .remove path, t => changed t (t.remove path)
  | .syncDirectory path, t =>
    (if t.isDirectory path then .ok () else .error .notDirectory, t)
  | .read path, t => (t.read path, t)

/-- More turns than any loop on a disk takes. -/
def turns : Nat := Nat.pow 2 32

/-- Runs a program on a disk that keeps a tree. -/
def run {α : Type} (limit : Option Nat) (p : Program Disk α) (t : Tree) : Option α × Tree :=
  p.run (fun c t => let (reply, t) := answer limit c t; (some reply, t)) turns t

end Disk

end UpdateAgent
