import UpdateAgent.Text.Utf8

/-!
# Paths

A path is a text: names with slashes between them. Empty names and single dots in it stand for
nothing, two dots stand for the directory above. Everything here looks at the text alone, so a path
need not lead anywhere.
-/

namespace UpdateAgent

/-- A path. -/
structure Path where
  chars : List Char
  deriving DecidableEq

namespace Path

/-- The path of a text. -/
def ofText (s : String) : Path :=
  ⟨s.toList⟩

/-- The text of a path. -/
def text (p : Path) : String :=
  String.ofList p.chars

/-- What stands between slashes. -/
def pieces (cs : List Char) : List (List Char) :=
  cs.splitOn '/'

/-- Pieces with slashes between them. -/
def joined (pieces : List (List Char)) : List Char :=
  List.intercalate ['/'] pieces

/-- A part of a path. -/
inductive Part
  | root
  | here
  | up
  | name (chars : List Char)
  deriving DecidableEq

/-- The piece stands for nothing. -/
def isBlankPiece (piece : List Char) : Bool :=
  piece.isEmpty || piece == ['.']

/-- The part that a piece stands for. -/
def part? (piece : List Char) : Option Part :=
  if isBlankPiece piece then none
  else if piece = ['.', '.'] then some .up
  else some (.name piece)

/-- Takes off what a path starts with: the slash of an absolute one, or the dot of one that starts
with a dot. -/
def front : List Char → List Char × List Char
  | '/' :: rest => (['/'], rest)
  | ['.'] => (['.'], [])
  | '.' :: '/' :: rest => (['.'], '/' :: rest)
  | cs => ([], cs)

/-- The path starts at the root. -/
def isAbsolute (p : Path) : Bool :=
  p.chars.head? == some '/'

/-- The parts of a path. A single dot counts only where the path starts with it. -/
def parts (p : Path) : List Part :=
  let (start, body) := front p.chars
  let first : List Part := match start with
    | ['/'] => [.root]
    | ['.'] => [.here]
    | _ => []
  first ++ (pieces body).filterMap part?

/-- A path below another; an absolute one stands for itself. -/
def join (p q : Path) : Path :=
  if q.isAbsolute then q
  else if p.chars.isEmpty || p.chars.getLast? == some '/' then ⟨p.chars ++ q.chars⟩
  else ⟨p.chars ++ '/' :: q.chars⟩

/-- A path below another, by its text. -/
def child (p : Path) (name : String) : Path :=
  p.join (ofText name)

/-- An absolute path as seen from the root, without blank pieces at either end; a path that is not
absolute as it is. -/
def belowRoot (p : Path) : Path :=
  match p.chars with
  | '/' :: rest =>
    let trimmed := ((pieces rest).dropWhile isBlankPiece).reverse.dropWhile isBlankPiece
    ⟨joined trimmed.reverse⟩
  | _ => p

/-- The pieces of a path up to the last that is not blank, in reverse order, behind what the path
starts with. -/
def reversed (p : Path) : List Char × List (List Char) :=
  let (start, body) := front p.chars
  (start, (pieces body).reverse.dropWhile isBlankPiece)

/-- The directory that a path lies in. Neither the root nor the empty path has one. -/
def parent? (p : Path) : Option Path :=
  match p.reversed with
  | (start, []) => if start = ['.'] then some ⟨[]⟩ else none
  | (start, _ :: before) =>
    some ⟨start ++ joined (before.dropWhile isBlankPiece).reverse⟩

/-- The text before the last name, and the last name, if the path ends in a name. -/
def lastName? (p : Path) : Option (List Char × List Char) :=
  match p.reversed with
  | (_, []) => none
  | (start, piece :: before) =>
    match part? piece with
    | some (.name name) => some (start ++ joined (([] : List Char) :: before).reverse, name)
    | _ => none

/-- A name as its stem and its extension. The extension follows the last dot; a dot at the very
start belongs to the stem. -/
def splitExtension (name : List Char) : List Char × Option (List Char) :=
  let after := (name.reverse.takeWhile (· ≠ '.')).reverse
  let before := name.take (name.length - after.length - 1)
  if after.length = name.length ∨ before.isEmpty then (name, none) else (before, some after)

/-- The last name of a path, with another extension and nothing after it; a path that does not end
in a name stays as it is. -/
def replaceExtension (p : Path) (extension : List Char) : Path :=
  match p.lastName? with
  | none => p
  | some (before, name) => ⟨before ++ (splitExtension name).1 ++ '.' :: extension⟩

/-- A path with another extension. The old one is cut off first, so a name of two dots and an
extension becomes the directory above, which takes none. -/
def withExtension (p : Path) (extension : List Char) : Path :=
  let old := match p.lastName? with
    | none => []
    | some (_, name) => (splitExtension name).2.getD []
  replaceExtension ⟨p.chars.take (p.chars.length - old.length)⟩ extension

/-- How many characters set a staged file apart. -/
def suffixLength : Nat := 6

/-- Where a file is staged before it takes the place of the one at this path: beside it, with a
suffix that sets it apart. -/
def staging (p : Path) (suffix : List Char) : Path :=
  p.withExtension ("sync-".toList ++ suffix)

end Path

end UpdateAgent
