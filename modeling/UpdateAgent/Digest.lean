import UpdateAgent.Text.Hex

/-!
# Digests

The SHA-256 digest of a byte string. The message is padded to whole blocks of 64 bytes, each block
is expanded to 64 words, and the words are mixed into a state of eight words, one after another.
-/

namespace UpdateAgent.Digest

/-- The eight words that the digest is computed in. -/
structure Registers where
  a : UInt32
  b : UInt32
  c : UInt32
  d : UInt32
  e : UInt32
  f : UInt32
  g : UInt32
  h : UInt32

/-- The fractional parts of the square roots of the first eight primes. -/
def initial : Registers where
  a := 0x6a09e667
  b := 0xbb67ae85
  c := 0x3c6ef372
  d := 0xa54ff53a
  e := 0x510e527f
  f := 0x9b05688c
  g := 0x1f83d9ab
  h := 0x5be0cd19

/-- The fractional parts of the cube roots of the first sixty-four primes. -/
def roundConstants : List UInt32 := [
  0x428a2f98, 0x71374491, 0xb5c0fbcf, 0xe9b5dba5, 0x3956c25b, 0x59f111f1, 0x923f82a4, 0xab1c5ed5,
  0xd807aa98, 0x12835b01, 0x243185be, 0x550c7dc3, 0x72be5d74, 0x80deb1fe, 0x9bdc06a7, 0xc19bf174,
  0xe49b69c1, 0xefbe4786, 0x0fc19dc6, 0x240ca1cc, 0x2de92c6f, 0x4a7484aa, 0x5cb0a9dc, 0x76f988da,
  0x983e5152, 0xa831c66d, 0xb00327c8, 0xbf597fc7, 0xc6e00bf3, 0xd5a79147, 0x06ca6351, 0x14292967,
  0x27b70a85, 0x2e1b2138, 0x4d2c6dfc, 0x53380d13, 0x650a7354, 0x766a0abb, 0x81c2c92e, 0x92722c85,
  0xa2bfe8a1, 0xa81a664b, 0xc24b8b70, 0xc76c51a3, 0xd192e819, 0xd6990624, 0xf40e3585, 0x106aa070,
  0x19a4c116, 0x1e376c08, 0x2748774c, 0x34b0bcb5, 0x391c0cb3, 0x4ed8aa4a, 0x5b9cca4f, 0x682e6ff3,
  0x748f82ee, 0x78a5636f, 0x84c87814, 0x8cc70208, 0x90befffa, 0xa4506ceb, 0xbef9a3f7, 0xc67178f2]

/-- A word turned right by `n` of its 32 bits. -/
def rotateRight (x n : UInt32) : UInt32 :=
  (x >>> n) ||| (x <<< (32 - n))

/-- The word that four bytes spell, the highest byte first. -/
def word (b₀ b₁ b₂ b₃ : UInt8) : UInt32 :=
  (b₀.toUInt32 <<< 24) ||| (b₁.toUInt32 <<< 16) ||| (b₂.toUInt32 <<< 8) ||| b₃.toUInt32

/-- The four bytes of a word, the highest first. -/
def wordBytes (x : UInt32) : Bytes :=
  [(x >>> 24).toUInt8, (x >>> 16).toUInt8, (x >>> 8).toUInt8, x.toUInt8]

/-- The words of a block. -/
def words : Bytes → List UInt32
  | b₀ :: b₁ :: b₂ :: b₃ :: rest => word b₀ b₁ b₂ b₃ :: words rest
  | _ => []

/-- Each of the `count` further words comes from four of the sixteen before it. -/
def extend : Nat → Array UInt32 → Array UInt32
  | 0, schedule => schedule
  | count + 1, schedule =>
    let back (n : Nat) : UInt32 := schedule.getD (schedule.size - n) 0
    let x := back 15
    let y := back 2
    let small := rotateRight x 7 ^^^ rotateRight x 18 ^^^ (x >>> 3)
    let large := rotateRight y 17 ^^^ rotateRight y 19 ^^^ (y >>> 10)
    extend count (schedule.push (back 16 + small + back 7 + large))

/-- The 64 words of a block. -/
def schedule (block : Bytes) : List UInt32 :=
  (extend 48 (words block).toArray).toList

/-- Mixes a word and its constant into the registers. -/
def step (r : Registers) (constant word : UInt32) : Registers :=
  let large := rotateRight r.e 6 ^^^ rotateRight r.e 11 ^^^ rotateRight r.e 25
  let choice := (r.e &&& r.f) ^^^ (~~~r.e &&& r.g)
  let first := r.h + large + choice + constant + word
  let small := rotateRight r.a 2 ^^^ rotateRight r.a 13 ^^^ rotateRight r.a 22
  let majority := (r.a &&& r.b) ^^^ (r.a &&& r.c) ^^^ (r.b &&& r.c)
  { a := first + (small + majority), b := r.a, c := r.b, d := r.c
    e := r.d + first, f := r.e, g := r.f, h := r.g }

/-- Adds two states word by word. -/
def Registers.add (x y : Registers) : Registers where
  a := x.a + y.a
  b := x.b + y.b
  c := x.c + y.c
  d := x.d + y.d
  e := x.e + y.e
  f := x.f + y.f
  g := x.g + y.g
  h := x.h + y.h

/-- Mixes a block into the registers. -/
def compress (r : Registers) (block : Bytes) : Registers :=
  r.add ((roundConstants.zip (schedule block)).foldl (fun r (k, w) => step r k w) r)

/-- The eight bytes of a number below 2^64, the highest first. -/
def lengthBytes (n : Nat) : Bytes :=
  (List.range 8).map fun i => UInt8.ofNat (n / Nat.pow 256 (7 - i))

/-- What follows a message of `length` bytes: a one bit, zeros up to a whole block less eight bytes,
and the length in bits. -/
def padding (length : Nat) : Bytes :=
  0x80 :: (List.replicate ((119 - length % 64) % 64) 0 ++ lengthBytes (8 * length))

/-- Mixes the first `count` blocks of a padded message into the registers. -/
def compressAll : Nat → Registers → Bytes → Registers
  | 0, r, _ => r
  | count + 1, r, bytes => compressAll count (compress r (bytes.take 64)) (bytes.drop 64)

/-- The 32 bytes of the digest. -/
def sha256 (message : Bytes) : Bytes :=
  let padded := message ++ padding message.length
  let r := compressAll (padded.length / 64) initial padded
  [r.a, r.b, r.c, r.d, r.e, r.f, r.g, r.h].flatMap wordBytes

/-- The digest in lower-case digits. -/
def sha256Text (message : Bytes) : String :=
  String.ofList (Hex.ofBytes (sha256 message))

end UpdateAgent.Digest
