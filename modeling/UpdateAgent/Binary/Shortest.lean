import UpdateAgent.Binary

/-!
# Shortest decimals

The fewest decimal digits that read back as a given double, and of those the nearest to it.
-/

namespace UpdateAgent.Binary

/-- The decimal `digits * 10 ^ exponent`. -/
structure Decimal where
  digits : Nat
  exponent : Int
  deriving DecidableEq

/-- The decimal lies in the interval of numbers that round to `m * 2 ^ e`, whose ends count when
`m` is even. The interval reaches half a unit up, and half a unit down or a quarter where the
exponent changes. -/
def roundsTo (m : Nat) (e : Int) (d : Decimal) : Bool :=
  let below := if m = Nat.pow 2 52 ∧ leastExponent < e then 4 * m - 1 else 4 * m - 2
  let value := d.digits * Nat.pow 10 d.exponent.toNat * 4 * Nat.pow 2 (-e).toNat
  let unit := Nat.pow 10 (-d.exponent).toNat * Nat.pow 2 e.toNat
  if m % 2 = 0 then below * unit ≤ value && value ≤ (4 * m + 2) * unit
  else below * unit < value && value < (4 * m + 2) * unit

/-- The greatest `k` with `10 ^ k` not above `num / den`. -/
def decade (num den : Nat) : Int :=
  if den ≤ num then (Nat.toDigits 10 (num / den)).length - 1
  else
    let k := (Nat.toDigits 10 (den / num)).length
    if den ≤ num * Nat.pow 10 (k - 1) then -((k : Int) - 1) else -(k : Int)

/-- The decimal with `count` digits nearest to `m * 2 ^ e` that rounds to it, if there is one; a tie
goes to the even one. -/
def withDigits? (m : Nat) (e : Int) (count : Nat) : Option Decimal :=
  let (num, den) := ratio m e
  let k := decade num den - count + 1
  let scaled := num * Nat.pow 10 (-k).toNat
  let unit := den * Nat.pow 10 k.toNat
  let low : Decimal := ⟨scaled / unit, k⟩
  let high : Decimal := ⟨scaled / unit + 1, k⟩
  let near := if roundEven scaled unit = low.digits then (low, high) else (high, low)
  if roundsTo m e near.1 then some near.1
  else if roundsTo m e near.2 then some near.2
  else none

/-- A decimal without the zeros at the end of its digits, in at most `turns` turns. -/
def Decimal.strip : Nat → Decimal → Decimal
  | 0, d => d
  | turns + 1, d =>
    if d.digits ≠ 0 ∧ d.digits % 10 = 0 then strip turns ⟨d.digits / 10, d.exponent + 1⟩ else d

/-- The shortest decimal that reads back as `m * 2 ^ e`; 17 digits always do. -/
def shortest (m : Nat) (e : Int) : Decimal :=
  match (List.range' 1 17).findSome? (withDigits? m e) with
  | some d => d.strip 17
  | none => ⟨0, 0⟩

end UpdateAgent.Binary
