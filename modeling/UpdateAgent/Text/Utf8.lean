/-!
# UTF-8

Characters as bytes and back. `encode` writes each character in its shortest form; `decode?`
accepts exactly the byte strings that `encode` produces, so overlong forms, surrogates and cut
sequences are refused.
-/

namespace UpdateAgent

/-- A byte string. -/
abbrev Bytes := List UInt8

namespace Utf8

/-- The one to four bytes of a character. -/
def encodeChar (c : Char) : Bytes :=
  let n := c.toNat
  if n < 0x80 then [UInt8.ofNat n]
  else if n < 0x800 then [UInt8.ofNat (0xC0 + n / 64), UInt8.ofNat (0x80 + n % 64)]
  else if n < 0x10000 then
    [UInt8.ofNat (0xE0 + n / 4096), UInt8.ofNat (0x80 + n / 64 % 64), UInt8.ofNat (0x80 + n % 64)]
  else
    [UInt8.ofNat (0xF0 + n / 262144), UInt8.ofNat (0x80 + n / 4096 % 64),
      UInt8.ofNat (0x80 + n / 64 % 64), UInt8.ofNat (0x80 + n % 64)]

/-- The bytes of a text. -/
def encode (cs : List Char) : Bytes :=
  cs.flatMap encodeChar

/-- The six bits that a continuation byte carries. -/
def continuation? (b : UInt8) : Option Nat :=
  if 0x80 ≤ b.toNat ∧ b.toNat < 0xC0 then some (b.toNat - 0x80) else none

/-- The character of scalar value `n`, unless a shorter form than the one read holds it (`n` is
below `least`) or there is no such character. -/
def scalar? (least n : Nat) : Option Char :=
  if h : least ≤ n ∧ n.isValidChar then some (Char.ofNatAux n h.2) else none

/-- The first character of a byte string and the bytes after it. -/
def decodeChar? : Bytes → Option (Char × Bytes)
  | [] => none
  | b :: rest =>
    let lead := b.toNat
    if lead < 0x80 then (scalar? 0 lead).map (·, rest)
    else if lead < 0xC0 then none
    else if lead < 0xE0 then
      match rest with
      | b₁ :: rest => do
        let x₁ ← continuation? b₁
        let c ← scalar? 0x80 ((lead - 0xC0) * 64 + x₁)
        pure (c, rest)
      | _ => none
    else if lead < 0xF0 then
      match rest with
      | b₁ :: b₂ :: rest => do
        let x₁ ← continuation? b₁
        let x₂ ← continuation? b₂
        let c ← scalar? 0x800 ((lead - 0xE0) * 4096 + x₁ * 64 + x₂)
        pure (c, rest)
      | _ => none
    else if lead < 0xF8 then
      match rest with
      | b₁ :: b₂ :: b₃ :: rest => do
        let x₁ ← continuation? b₁
        let x₂ ← continuation? b₂
        let x₃ ← continuation? b₃
        let c ← scalar? 0x10000 ((lead - 0xF0) * 262144 + x₁ * 4096 + x₂ * 64 + x₃)
        pure (c, rest)
      | _ => none
    else none

/-- Reads at most `count` characters after those of `done`, which stand in reverse. -/
def decodeFrom (done : List Char) : Nat → Bytes → Option (List Char)
  | _, [] => some done.reverse
  | 0, _ :: _ => none
  | count + 1, bytes =>
    match decodeChar? bytes with
    | some (c, rest) => decodeFrom (c :: done) count rest
    | none => none

/-- The text that a byte string encodes. No character is shorter than a byte, so the length of the
byte string is enough turns. -/
def decode? (bytes : Bytes) : Option (List Char) :=
  decodeFrom [] bytes.length bytes

/-- The text that a byte string encodes, as a string. -/
def text? (bytes : Bytes) : Option String :=
  (decode? bytes).map String.ofList

/-- The bytes of a string. -/
def ofText (s : String) : Bytes :=
  encode s.toList

end Utf8

end UpdateAgent
