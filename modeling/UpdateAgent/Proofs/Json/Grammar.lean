import UpdateAgent.Json.Raw

/-!
# The grammar of JSON

Which byte strings write a shape, and which characters the pieces of a string stand for. The rules
say nothing of how a document is read: they leave open the white space, the case of hexadecimal
digits, the letter of an exponent and its plus sign, and they do not tell where a part ends. The
rules of the parts of a document come first (`Numeral.Written`, `Literal`), then those of values,
elements and members (`Written`).
-/

namespace UpdateAgent.Json

/-- White space. -/
def Blank (bytes : Bytes) : Prop :=
  ∀ b ∈ bytes, b ∈ [' ', '\n', '\t', '\r'].map ascii

/-- The bytes of an ASCII word. -/
def word (cs : List Char) : Bytes :=
  cs.map ascii

/-! ## Numbers -/

/-- One digit or more. -/
structure Digits (ds : List Nat) (bytes : Bytes) : Prop where
  ne_nil : ds ≠ []
  lt : ∀ d ∈ ds, d < 10
  bytes_eq : bytes = ds.map fun d => UInt8.ofNat (0x30 + d)

/-- A fraction is a point and digits. -/
inductive Fraction : Option (List Nat) → Bytes → Prop
  | absent : Fraction none []
  | present {ds : List Nat} {bytes : Bytes} (digits : Digits ds bytes) :
      Fraction (some ds) (ascii '.' :: bytes)

/-- An exponent is negative if it has a minus sign. -/
inductive Sign : Bool → Bytes → Prop
  | absent : Sign false []
  | plus : Sign false [ascii '+']
  | minus : Sign true [ascii '-']

/-- An exponent is an E of either case, a sign and digits. -/
inductive Exponent : Option (Bool × List Nat) → Bytes → Prop
  | absent : Exponent none []
  | present {letter : Char} {negative : Bool} {sign : Bytes} {ds : List Nat} {bytes : Bytes}
      (letter_eq : letter = 'e' ∨ letter = 'E') (signed : Sign negative sign)
      (digits : Digits ds bytes) :
      Exponent (some (negative, ds)) (ascii letter :: (sign ++ bytes))

/-- A number has digits before the point, of which the first is not zero if there are several. -/
inductive Numeral.Written : Numeral → Bytes → Prop
  | parts {n : Numeral} {whole fraction exponent : Bytes} (digits : Digits n.whole whole)
      (zero : n.whole.head? = some 0 → n.whole = [0]) (fractional : Fraction n.fraction fraction)
      (scaled : Exponent n.exponent exponent) :
      Written n ((if n.negative then [ascii '-'] else []) ++ (whole ++ (fraction ++ exponent)))

/-! ## Strings -/

/-- The letters that stand for a character behind a backslash. -/
def shorts : List (Char × Char) :=
  [('"', '"'), ('\\', '\\'), ('/', '/'), ('b', '\x08'), ('f', '\x0c'), ('n', '\n'), ('r', '\r'),
    ('t', '\t')]

/-- A byte that stands for itself in a string. -/
def Text.IsPlain (b : UInt8) : Prop :=
  b ≠ ascii '"' ∧ b ≠ ascii '\\' ∧ 0x20 ≤ b.toNat

/-- A byte stands for itself, or a backslash begins what stands for a character. -/
inductive Piece.Written : Piece → Bytes → Prop
  | byte {b : UInt8} (plain : Text.IsPlain b) : Written (.byte b) [b]
  | short {e c : Char} (mem : (e, c) ∈ shorts) : Written (.short c) [ascii '\\', ascii e]
  | unit {b₁ b₂ b₃ b₄ : UInt8} {d₁ d₂ d₃ d₄ : Nat} (first : Text.hexDigit? b₁ = some d₁)
      (second : Text.hexDigit? b₂ = some d₂) (third : Text.hexDigit? b₃ = some d₃)
      (fourth : Text.hexDigit? b₄ = some d₄) :
      Written (.unit (((d₁ * 16 + d₂) * 16 + d₃) * 16 + d₄))
        [ascii '\\', ascii 'u', b₁, b₂, b₃, b₄]

/-- What stands between the quotes. -/
inductive Pieces : List Piece → Bytes → Prop
  | nil : Pieces [] []
  | cons {p : Piece} {ps : List Piece} {bytes rest : Bytes} (this : p.Written bytes)
      (others : Pieces ps rest) : Pieces (p :: ps) (bytes ++ rest)

/-- A string. -/
inductive Literal : List Piece → Bytes → Prop
  | quoted {ps : List Piece} {bytes : Bytes} (pieces : Pieces ps bytes) :
      Literal ps (ascii '"' :: (bytes ++ [ascii '"']))

/-- Pieces that stand for one character: its bytes, its letter behind a backslash, its number, which
is no half of a surrogate pair, or, if its number has more than four digits, the two halves of
one. -/
inductive Spelling : List Piece → Char → Prop
  | bytes (c : Char) : Spelling ((Utf8.encodeChar c).map .byte) c
  | short (c : Char) : Spelling [.short c] c
  | unit {n : Nat} (whole : n < 0xD800 ∨ 0xDFFF < n) : Spelling [.unit n] (Char.ofNat n)
  | pair {c : Char} (long : 0x10000 ≤ c.toNat) :
      Spelling [.unit (0xD800 + (c.toNat - 0x10000) / 1024),
        .unit (0xDC00 + (c.toNat - 0x10000) % 1024)] c

/-- The characters that pieces stand for. -/
inductive Spells : List Piece → List Char → Prop
  | nil : Spells [] []
  | cons {ps rest : List Piece} {c : Char} {cs : List Char} (this : Spelling ps c)
      (others : Spells rest cs) : Spells (ps ++ rest) (c :: cs)

/-! ## Values -/

/-- The key of a member and the colon after it. -/
inductive Key : List Piece → Bytes → Prop
  | colon {key : List Piece} {before bytes after : Bytes} (blank : Blank before)
      (literal : Literal key bytes) (blank' : Blank after) :
      Key key (before ++ (bytes ++ (after ++ [ascii ':'])))

/-- What a byte string can write: a value, a value with white space around it, several of these
between commas, or members between commas. -/
inductive Phrase
  | value (r : Raw)
  | element (r : Raw)
  | elements (rs : List Raw)
  | members (ms : List (List Piece × Raw))

/-- How a phrase is written. -/
inductive Written : Phrase → Bytes → Prop
  | null : Written (.value .null) (word ['n', 'u', 'l', 'l'])
  | true : Written (.value (.bool true)) (word ['t', 'r', 'u', 'e'])
  | false : Written (.value (.bool false)) (word ['f', 'a', 'l', 's', 'e'])
  | number {n : Numeral} {bytes : Bytes} (numeral : n.Written bytes) :
      Written (.value (.number n)) bytes
  | text {ps : List Piece} {bytes : Bytes} (literal : Literal ps bytes) :
      Written (.value (.text ps)) bytes
  | emptyList {bytes : Bytes} (blank : Blank bytes) :
      Written (.value (.list [])) (ascii '[' :: (bytes ++ [ascii ']']))
  | list {rs : List Raw} {bytes : Bytes} (items : Written (.elements rs) bytes) :
      Written (.value (.list rs)) (ascii '[' :: (bytes ++ [ascii ']']))
  | emptyObject {bytes : Bytes} (blank : Blank bytes) :
      Written (.value (.object [])) (ascii '{' :: (bytes ++ [ascii '}']))
  | object {ms : List (List Piece × Raw)} {bytes : Bytes} (members : Written (.members ms) bytes) :
      Written (.value (.object ms)) (ascii '{' :: (bytes ++ [ascii '}']))
  | element {r : Raw} {before bytes after : Bytes} (blank : Blank before)
      (this : Written (.value r) bytes) (blank' : Blank after) :
      Written (.element r) (before ++ (bytes ++ after))
  | lastElement {r : Raw} {bytes : Bytes} (this : Written (.element r) bytes) :
      Written (.elements [r]) bytes
  | nextElement {r : Raw} {rs : List Raw} {bytes rest : Bytes} (this : Written (.element r) bytes)
      (others : Written (.elements rs) rest) :
      Written (.elements (r :: rs)) (bytes ++ ascii ',' :: rest)
  | lastMember {key : List Piece} {r : Raw} {before bytes : Bytes} (keyed : Key key before)
      (this : Written (.element r) bytes) : Written (.members [(key, r)]) (before ++ bytes)
  | nextMember {key : List Piece} {r : Raw} {ms : List (List Piece × Raw)}
      {before bytes rest : Bytes} (keyed : Key key before) (this : Written (.element r) bytes)
      (others : Written (.members ms) rest) :
      Written (.members ((key, r) :: ms)) (before ++ (bytes ++ ascii ',' :: rest))

/-- A document is one value with white space around it, and nothing else. -/
def Document (bytes : Bytes) (r : Raw) : Prop :=
  Written (.element r) bytes

end UpdateAgent.Json
