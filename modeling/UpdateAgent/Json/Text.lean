import UpdateAgent.Text.Hex

/-!
# JSON strings

A string literal is read in two steps. `Text.scan` finds where it ends and checks its escapes,
whatever its bytes are; `Text.chars?` says which characters it stands for, and refuses lone
surrogates and bytes that are not UTF-8. Written strings escape the quote, the backslash and the
control characters, and nothing else.
-/

namespace UpdateAgent.Json

/-- The byte of an ASCII character. -/
def ascii (c : Char) : UInt8 :=
  UInt8.ofNat c.toNat

/-- What a string literal consists of. -/
inductive Piece
  | byte (b : UInt8)
  | short (c : Char)
  | unit (n : Nat)
  deriving DecidableEq

namespace Text

/-- The character that a backslash and this byte stand for. -/
def short? (b : UInt8) : Option Char :=
  if b = ascii '"' then some '"'
  else if b = ascii '\\' then some '\\'
  else if b = ascii '/' then some '/'
  else if b = ascii 'b' then some '\x08'
  else if b = ascii 'f' then some '\x0c'
  else if b = ascii 'n' then some '\n'
  else if b = ascii 'r' then some '\r'
  else if b = ascii 't' then some '\t'
  else none

/-- The value of an ASCII hexadecimal digit. -/
def hexDigit? (b : UInt8) : Option Nat :=
  Hex.digit? (Char.ofNat b.toNat)

/-- The value of four hexadecimal digits. -/
def unit? (b₁ b₂ b₃ b₄ : UInt8) : Option Nat := do
  let d₁ ← hexDigit? b₁
  let d₂ ← hexDigit? b₂
  let d₃ ← hexDigit? b₃
  let d₄ ← hexDigit? b₄
  pure (((d₁ * 16 + d₂) * 16 + d₃) * 16 + d₄)

/-- The pieces up to the closing quote, after those of `done` in reverse, and what follows the
quote. -/
def scan (done : List Piece) : Bytes → Option (List Piece × Bytes)
  | [] => none
  | b :: rest =>
    if b = ascii '"' then some (done.reverse, rest)
    else if b = ascii '\\' then
      match rest with
      | [] => none
      | e :: rest =>
        if e = ascii 'u' then
          match rest with
          | b₁ :: b₂ :: b₃ :: b₄ :: rest =>
            match unit? b₁ b₂ b₃ b₄ with
            | some n => scan (.unit n :: done) rest
            | none => none
          | _ => none
        else
          match short? e with
          | some c => scan (.short c :: done) rest
          | none => none
    else if b.toNat < 0x20 then none
    else scan (.byte b :: done) rest

/-- A unit that begins a surrogate pair. -/
def isLeading (n : Nat) : Bool :=
  0xD800 ≤ n && n < 0xDC00

/-- A unit that ends a surrogate pair. -/
def isTrailing (n : Nat) : Bool :=
  0xDC00 ≤ n && n < 0xE000

/-- The bytes that pieces stand for, after those of `done` in reverse; nothing if a surrogate
stands alone. -/
def bytesFrom (done : Bytes) : List Piece → Option Bytes
  | [] => some done.reverse
  | .byte b :: rest => bytesFrom (b :: done) rest
  | .short c :: rest => bytesFrom ((Utf8.encodeChar c).reverse ++ done) rest
  | .unit n :: rest =>
    if isTrailing n then none
    else if isLeading n then
      match rest with
      | .unit m :: rest =>
        if isTrailing m then
          let c := Char.ofNat (0x10000 + (n - 0xD800) * 1024 + (m - 0xDC00))
          bytesFrom ((Utf8.encodeChar c).reverse ++ done) rest
        else none
      | _ => none
    else bytesFrom ((Utf8.encodeChar (Char.ofNat n)).reverse ++ done) rest

/-- The characters that pieces stand for. -/
def chars? (pieces : List Piece) : Option (List Char) :=
  (bytesFrom [] pieces).bind Utf8.decode?

/-- The text that pieces stand for. -/
def text? (pieces : List Piece) : Option String :=
  (chars? pieces).map String.ofList

/-- A character as it is written inside a string literal. -/
def escape (c : Char) : List Char :=
  if c = '"' then ['\\', '"']
  else if c = '\\' then ['\\', '\\']
  else if c = '\x08' then ['\\', 'b']
  else if c = '\x0c' then ['\\', 'f']
  else if c = '\n' then ['\\', 'n']
  else if c = '\r' then ['\\', 'r']
  else if c = '\t' then ['\\', 't']
  else if c.toNat < 0x20 then
    ['\\', 'u', '0', '0', Hex.lower (c.toNat / 16), Hex.lower (c.toNat % 16)]
  else [c]

/-- A text as a string literal. -/
def quote (cs : List Char) : List Char :=
  '"' :: (cs.flatMap escape ++ ['"'])

end Text

end UpdateAgent.Json
