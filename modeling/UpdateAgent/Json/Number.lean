import UpdateAgent.Binary.Shortest
import UpdateAgent.Json.Raw

/-!
# JSON numbers

A number without fraction and exponent that fits 64 bits is exact; every other one is the double
that its first digits, scaled by a power of ten, come to. Doubles are written with the fewest digits
that read back, positionally between `1e-5` and `1e16`.
-/

namespace UpdateAgent.Json

/-- The value of a number: a natural number below `2 ^ 64`, the negation of a positive one up to
`2 ^ 63`, or a double. -/
inductive Number
  | natural (n : Nat)
  | negative (n : Nat)
  | real (x : Binary)
  deriving DecidableEq

namespace Number

/-- Digits read so far: their value, how many more were only counted, and whether reading goes
on. -/
structure Absorbed where
  value : Nat
  extra : Nat
  isOpen : Bool

/-- Appends a digit while the value fits 64 bits; from the first digit that does not fit on, digits
are only counted. -/
def Absorbed.digit (a : Absorbed) (d : Nat) : Absorbed :=
  if a.isOpen && a.value * 10 + d < Nat.pow 2 64 then { a with value := a.value * 10 + d }
  else { a with extra := a.extra + 1, isOpen := false }

/-- The value of digits as far as it fits 64 bits after `value`. -/
def absorb (value : Nat) (ds : List Nat) : Absorbed :=
  ds.foldl Absorbed.digit ⟨value, 0, true⟩

/-- The value of digits. -/
def ofDigits (ds : List Nat) : Nat :=
  ds.foldl (fun n d => n * 10 + d) 0

/-- The bound of an exponent. -/
def exponentBound : Nat := Nat.pow 2 31

/-- The double of a significand with a power of ten. -/
def real? (isNegative : Bool) (significand : Nat) (exponent : Int) : Option Number := do
  let x ← Binary.ofRatio? isNegative significand 1
  let x ← Binary.scale? 4 x exponent
  pure (.real x)

/-- The value that a number writes, unless it is too large for a double. -/
def ofNumeral? (n : Numeral) : Option Number :=
  let whole := absorb 0 n.whole
  match n.fraction, n.exponent with
  | none, none =>
    if whole.extra ≠ 0 then real? n.negative whole.value whole.extra
    else if n.negative then
      if whole.value = 0 ∨ Nat.pow 2 63 < whole.value then real? true whole.value 0
      else some (.negative whole.value)
    else some (.natural whole.value)
  | fraction, exponent =>
    let ds := fraction.getD []
    let all := absorb whole.value ds
    let point : Int := whole.extra - (ds.length - all.extra : Nat)
    match exponent with
    | none => real? n.negative all.value point
    | some (isNegative, es) =>
      let e := ofDigits es
      if exponentBound ≤ e then
        if all.value ≠ 0 ∧ isNegative = false then none else real? n.negative 0 0
      else real? n.negative all.value (if isNegative then point - e else point + e)

/-- A double as it is written. -/
def realText (x : Binary) : List Char :=
  let sign := if x.negative then ['-'] else []
  if x.isZero then sign ++ ['0', '.', '0']
  else
    let d := Binary.shortest x.significand x.exponent
    let ds := Nat.toDigits 10 d.digits
    let point : Int := ds.length + d.exponent
    let body :=
      if 0 ≤ d.exponent ∧ point ≤ 16 then
        ds ++ List.replicate d.exponent.toNat '0' ++ ['.', '0']
      else if 0 < point ∧ point ≤ 16 then
        ds.take point.toNat ++ '.' :: ds.drop point.toNat
      else if -5 < point ∧ point ≤ 0 then
        '0' :: '.' :: List.replicate (-point).toNat '0' ++ ds
      else
        let power := (toString (point - 1)).toList
        match ds with
        | [d] => d :: 'e' :: power
        | d :: ds => d :: '.' :: ds ++ 'e' :: power
        | [] => []
    sign ++ body

/-- A number as it is written. -/
def text : Number → List Char
  | natural n => Nat.toDigits 10 n
  | negative n => '-' :: Nat.toDigits 10 n
  | real x => realText x

end Number

end UpdateAgent.Json
