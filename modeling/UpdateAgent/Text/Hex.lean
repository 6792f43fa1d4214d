import UpdateAgent.Text.Utf8

/-!
# Hexadecimal digits

A byte is written as two digits, the high half first.
-/

namespace UpdateAgent.Hex

/-- The value of an ASCII hexadecimal digit of either case. -/
def digit? (c : Char) : Option Nat :=
  let n := c.toNat
  if 0x30 ≤ n ∧ n ≤ 0x39 then some (n - 0x30)
  else if 0x41 ≤ n ∧ n ≤ 0x46 then some (n - 0x41 + 10)
  else if 0x61 ≤ n ∧ n ≤ 0x66 then some (n - 0x61 + 10)
  else none

/-- The digit of a value below sixteen, letters counted from `a`. -/
def digit (letters : Char) (n : Nat) : Char :=
  if n < 10 then Char.ofNat (0x30 + n) else Char.ofNat (letters.toNat + (n - 10))

/-- The lower-case digit of a value below sixteen. -/
def lower (n : Nat) : Char :=
  digit 'a' n

/-- The upper-case digit of a value below sixteen. -/
def upper (n : Nat) : Char :=
  digit 'A' n

/-- The byte of two digits. -/
def byte? (high low : Char) : Option UInt8 := do
  let h ← digit? high
  let l ← digit? low
  pure (UInt8.ofNat (16 * h + l))

/-- The two lower-case digits of a byte. -/
def ofByte (b : UInt8) : List Char :=
  [lower (b.toNat / 16), lower (b.toNat % 16)]

/-- The two upper-case digits of a byte. -/
def ofByteUpper (b : UInt8) : List Char :=
  [upper (b.toNat / 16), upper (b.toNat % 16)]

/-- The lower-case digits of a byte string. -/
def ofBytes (bytes : Bytes) : List Char :=
  bytes.flatMap ofByte

/-- The bytes of a text of digit pairs. -/
def bytes? : List Char → Option Bytes
  | [] => some []
  | high :: low :: rest => do
    let b ← byte? high low
    let bs ← bytes? rest
    pure (b :: bs)
  | [_] => none

end UpdateAgent.Hex
