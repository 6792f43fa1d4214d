import UpdateAgent.Text.Utf8

/-!
# PEM files

Binary data in text files, in blocks between a line that begins it and one that ends it, both with
the name of what the block holds. Text outside of blocks counts for nothing.
-/

namespace UpdateAgent.Pem

/-- The value of a digit of base 64. -/
def digit? (b : UInt8) : Option Nat :=
  let n := b.toNat
  if 0x41 ≤ n ∧ n ≤ 0x5A then some (n - 0x41)
  else if 0x61 ≤ n ∧ n ≤ 0x7A then some (n - 0x61 + 26)
  else if 0x30 ≤ n ∧ n ≤ 0x39 then some (n - 0x30 + 52)
  else if n = 0x2B then some 62
  else if n = 0x2F then some 63
  else none

/-- The bytes that groups of four digits write. Equals signs fill the last group; the bits of its
last digit that write nothing must be zero. -/
def decode? : Bytes → Option Bytes
  | [] => some []
  | [a, b, 0x3D, 0x3D] => do
    let a ← digit? a
    let b ← digit? b
    if b % 16 = 0 then some [UInt8.ofNat (a * 4 + b / 16)] else none
  | [a, b, c, 0x3D] => do
    let a ← digit? a
    let b ← digit? b
    let c ← digit? c
    if c % 4 = 0 then some [UInt8.ofNat (a * 4 + b / 16), UInt8.ofNat (b * 16 + c / 4)] else none
  | a :: b :: c :: d :: rest => do
    let a ← digit? a
    let b ← digit? b
    let c ← digit? c
    let d ← digit? d
    let bytes ← decode? rest
    some (UInt8.ofNat (a * 4 + b / 16) :: UInt8.ofNat (b * 16 + c / 4) ::
      UInt8.ofNat (c * 64 + d) :: bytes)
  | _ => none

/-- A block: what it holds, and its bytes. -/
structure Block where
  label : Bytes
  content : Bytes
  deriving DecidableEq

/-- White space at the end of a line. -/
def isTrailing (b : UInt8) : Bool :=
  b == 0x0D || b == 0x20

/-- A line without white space at its end. -/
def trimmed (line : Bytes) : Bytes :=
  (line.reverse.dropWhile isTrailing).reverse

/-- What follows a text that a line starts with. -/
def after? (start : String) (line : Bytes) : Option Bytes :=
  let start := Utf8.ofText start
  if start.isPrefixOf line then some (line.drop start.length) else none

/-- The five hyphens that close the first and the last line of a block. -/
def rule : Bytes := Utf8.ofText "-----"

/-- What a block holds, if the line begins one; the line must be closed. -/
def label? (line : Bytes) : Option (Option Bytes) :=
  match after? "-----BEGIN " (trimmed line) with
  | none => none
  | some rest =>
    let hyphens := (rest.reverse.takeWhile (· == 0x2D)).length
    if hyphens = 5 then some (some (rest.take (rest.length - 5))) else some none

/-- The names of blocks that are looked into. -/
def known : List Bytes :=
  ["CERTIFICATE", "CERTIFICATE REQUEST", "PUBLIC KEY", "PRIVATE KEY", "RSA PRIVATE KEY",
    "EC PRIVATE KEY", "X509 CRL", "ECHCONFIG"].map Utf8.ofText

/-- The block of a name with the text between its lines; there is none for a name that is not
known. -/
def block? (label text : Bytes) : Option (List Block) :=
  if label ∈ known then (decode? text).map fun content => [⟨label, content⟩] else some []

/-- The known blocks in lines, where `label` and the lines so far belong to a block that was begun.
There are none if a block is not closed, or does not decode. -/
def collect? : Option (Bytes × Bytes) → List Bytes → Option (List Block)
  | none, [] => some []
  | some _, [] => none
  | current, line :: lines =>
    match label? line, current with
    | some none, _ => none
    | some (some label), _ => collect? (some (label, [])) lines
    | none, none => collect? none lines
    | none, some (label, content) =>
      if (Utf8.ofText "-----END " ++ label ++ rule).isPrefixOf line then do
        let block ← block? label content
        let blocks ← collect? none lines
        some (block ++ blocks)
      else collect? (some (label, content ++ trimmed line)) lines

/-- The known blocks of a file. -/
def blocks? (file : Bytes) : Option (List Block) :=
  collect? none (file.splitOn 0x0A)

/-- The size that a tagged value gives for itself, and what follows it. -/
def size? : Bytes → Option (Nat × Bytes)
  | [] => none
  | b :: rest =>
    let n := b.toNat
    if n < 0x80 then some (n, rest)
    else
      let count := n - 0x80
      if count = 0 ∨ 4 < count ∨ rest.length < count then none
      else some ((rest.take count).foldl (fun n b => n * 256 + b.toNat) 0, rest.drop count)

/-- The content of a value with this tag, and what follows it. -/
def value? (tag : UInt8) : Bytes → Option (Bytes × Bytes)
  | [] => none
  | b :: rest => do
    if b ≠ tag then none
    else
      let (size, rest) ← size? rest
      if rest.length < size then none else some (rest.take size, rest.drop size)

/-- The bytes have the outer form of a certificate: a sequence of the signed part, the algorithm of
the signature, and the signature. -/
def isCertificate (bytes : Bytes) : Bool :=
  let parts? : Option Bool := do
    let (content, rest) ← value? 0x30 bytes
    let (_, content) ← value? 0x30 content
    let (_, content) ← value? 0x30 content
    let (_, content) ← value? 0x03 content
    some (rest.isEmpty && content.isEmpty)
  parts?.getD false

/-- Every certificate in a file is one. A file without any will do. -/
def holdsCertificates (file : Bytes) : Bool :=
  match blocks? file with
  | none => false
  | some blocks =>
    blocks.all fun block => block.label ≠ Utf8.ofText "CERTIFICATE" || isCertificate block.content

end UpdateAgent.Pem
