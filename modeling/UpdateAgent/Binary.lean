/-!
# Double precision

Finite binary numbers of 53 significant bits, with products and quotients rounded to the nearest
one, a tie to the even one. Everything is natural-number arithmetic on significand and exponent.
-/

namespace UpdateAgent

/-- The number `significand * 2 ^ exponent`, negated if `negative`. -/
structure Binary where
  negative : Bool
  significand : Nat
  exponent : Int
  deriving DecidableEq

namespace Binary

/-- The least exponent; numbers that have it may have fewer significant bits. -/
def leastExponent : Int := -1074

/-- The greatest exponent. -/
def greatestExponent : Int := 971

/-- A quotient rounded to the nearest natural number, a tie to the even one. -/
def roundEven (num den : Nat) : Nat :=
  let q := num / den
  let r := num % den
  if 2 * r < den then q else if den < 2 * r then q + 1 else q + q % 2

/-- The quotient `num / den` counted in units of `2 ^ e`, rounded. -/
def inUnits (num den : Nat) (e : Int) : Nat :=
  roundEven (num * Nat.pow 2 (-e).toNat) (den * Nat.pow 2 e.toNat)

/-- The greatest `d` with `2 ^ d` not above `num / den`. -/
def magnitude (num den : Nat) : Int :=
  let d := (num.log2 : Int) - den.log2
  if den * Nat.pow 2 d.toNat ≤ num * Nat.pow 2 (-d).toNat then d else d - 1

/-- The number nearest to `num / den`, unless it is too large. -/
def ofRatio? (negative : Bool) (num den : Nat) : Option Binary :=
  if num = 0 then some ⟨negative, 0, leastExponent⟩
  else
    let e := max (magnitude num den - 52) leastExponent
    let m := inUnits num den e
    let (m, e) := if m = Nat.pow 2 53 then (Nat.pow 2 52, e + 1) else (m, e)
    if greatestExponent < e then none else some ⟨negative, m, e⟩

/-- Numerator and denominator of `m * 2 ^ e`. -/
def ratio (m : Nat) (e : Int) : Nat × Nat :=
  (m * Nat.pow 2 e.toNat, Nat.pow 2 (-e).toNat)

/-- The product, unless it is too large. -/
def mul? (x y : Binary) : Option Binary :=
  let (num, den) := ratio (x.significand * y.significand) (x.exponent + y.exponent)
  ofRatio? (x.negative != y.negative) num den

/-- The quotient by a number other than zero, unless it is too large. -/
def div? (x y : Binary) : Option Binary :=
  let (num, den) := ratio x.significand (x.exponent - y.exponent)
  ofRatio? (x.negative != y.negative) num (den * y.significand)

/-- The number is zero. -/
def isZero (x : Binary) : Bool :=
  x.significand == 0

/-- The power of ten nearest to `10 ^ k`, for `k` up to 308. -/
def tenTo? (k : Nat) : Option Binary :=
  ofRatio? false (Nat.pow 10 k) 1

/-- A number times `10 ^ k`, by one rounded product or quotient when the power is a double, else
after as many quotients by `10 ^ 308` as `turns` allows. -/
def scale? : Nat → Binary → Int → Option Binary
  | turns, x, k =>
    if k.natAbs ≤ 308 then
      match tenTo? k.natAbs with
      | none => none
      | some p => if 0 ≤ k then mul? x p else div? x p
    else if x.isZero then some x
    else if 0 ≤ k then none
    else
      match turns with
      | 0 => some x
      | turns + 1 =>
        match (tenTo? 308).bind (div? x) with
        | none => none
        | some x => scale? turns x (k + 308)

end Binary

end UpdateAgent
