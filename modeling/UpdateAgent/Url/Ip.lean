import UpdateAgent.Text.Hex

/-!
# Internet addresses

Numeric hosts. An IPv4 address is written as up to four numbers, each decimal, octal or hexadecimal,
of which the last fills the bytes that are left. An IPv6 address is written as eight groups of
hexadecimal digits, a run of zero groups left out once, and the last two groups possibly as an IPv4
address.
-/

namespace UpdateAgent.Ip

/-- The number that digits of a base write. -/
def ofDigits? (base : Nat) (cs : List Char) : Option Nat :=
  cs.foldlM (fun n c => do
    let d ← Hex.digit? c
    if d < base then some (n * base + d) else none) 0

/-- A number in an IPv4 address: hexadecimal after `0x`, octal after another zero. -/
def number? : List Char → Option Nat
  | [] => none
  | '0' :: 'x' :: digits => ofDigits? 16 digits
  | '0' :: 'X' :: digits => ofDigits? 16 digits
  | '0' :: d :: digits => ofDigits? 8 (d :: digits)
  | digits => ofDigits? 10 digits

/-- The parts between dots, without an empty last one. -/
def parts (cs : List Char) : List (List Char) :=
  let all := cs.splitOn '.'
  if all.getLast? = some [] then all.dropLast else all

/-- The last part of a name is a number, so the name can only be an IPv4 address. -/
def endsInNumber (cs : List Char) : Bool :=
  match (parts cs).getLast? with
  | none => false
  | some [] => false
  | some last =>
    last.all (fun c => '0' ≤ c && c ≤ '9') || (number? last).isSome

/-- Reads an IPv4 address, as a number below 2^32. -/
def readV4? (cs : List Char) : Option Nat := do
  let numbers ← (parts cs).mapM number?
  match numbers.reverse with
  | [] => none
  | last :: before =>
    if 3 < before.length ∨ before.any (255 < ·) then none
    else if Nat.pow 256 (4 - before.length) ≤ last then none
    else
      let high := before.reverse.foldl (fun n b => n * 256 + b) 0
      some (high * Nat.pow 256 (4 - before.length) + last)

/-- Groups read so far, the latest first, and how many of them stand before the groups that are left
out. -/
structure Groups where
  read : List Nat := []
  gap : Option Nat := none

/-- At most four hexadecimal digits at the start of a text: their value and what follows. -/
def group (cs : List Char) : Nat × List Char :=
  let digits := (cs.take 4).takeWhile fun c => (Hex.digit? c).isSome
  (digits.foldl (fun n c => n * 16 + (Hex.digit? c).getD 0) 0, cs.drop digits.length)

/-- A decimal number below 256 without leading zeros. -/
def octet? (cs : List Char) : Option Nat :=
  match cs with
  | [] => none
  | '0' :: _ :: _ => none
  | _ => do
    let n ← ofDigits? 10 cs
    if n < 256 then some n else none

/-- The two groups that an IPv4 address at the end of an IPv6 address stands for. -/
def embedded? (cs : List Char) : Option (List Nat) :=
  match cs.splitOn '.' with
  | [a, b, c, d] => do
    let a ← octet? a
    let b ← octet? b
    let c ← octet? c
    let d ← octet? d
    some [a * 256 + b, c * 256 + d]
  | _ => none

/-- Reads groups; each turn takes at least one character. -/
def groups? : Nat → Groups → List Char → Option Groups
  | _, g, [] => some g
  | 0, _, _ :: _ => none
  | turns + 1, g, c :: cs =>
    if g.read.length = 8 then none
    else if c = ':' then
      if g.gap.isSome then none
      else
        let read := 0 :: g.read
        groups? turns { read, gap := some read.length } cs
    else
      let (value, rest) := group (c :: cs)
      match rest with
      | [] => some { g with read := value :: g.read }
      | [':'] => none
      | ':' :: rest => groups? turns { g with read := value :: g.read } rest
      | '.' :: _ =>
        if 6 < g.read.length then none
        else
          match embedded? (c :: cs) with
          | some [high, low] => some { g with read := low :: high :: g.read }
          | _ => none
      | _ => none

/-- The eight groups, with zeros for those that were left out. -/
def Groups.filled? (g : Groups) : Option (List Nat) :=
  let read := g.read.reverse
  match g.gap with
  | none => if read.length = 8 then some read else none
  | some gap =>
    if 8 < read.length then none
    else some (read.take gap ++ List.replicate (8 - read.length) 0 ++ read.drop gap)

/-- Reads an IPv6 address, as eight groups. -/
def readV6? (cs : List Char) : Option (List Nat) :=
  match cs with
  | ':' :: ':' :: rest =>
    (groups? (rest.length + 1) { read := [0], gap := some 1 } rest).bind Groups.filled?
  | ':' :: _ => none
  | [] => none
  | [_] => none
  | cs => (groups? (cs.length + 1) {} cs).bind Groups.filled?

/-- How many zeros a list of groups starts with. -/
def zeros (groups : List Nat) : Nat :=
  (groups.takeWhile (· = 0)).length

/-- Where the longest run of zero groups starts and how long it is; the first of several. -/
def longestRun (groups : List Nat) : Nat × Nat :=
  (List.range groups.length).foldl (fun (start, length) i =>
    let run := zeros (groups.drop i)
    if length < run then (i, run) else (start, length)) (0, 0)

/-- Groups with colons between them. -/
def colons (groups : List Nat) : List Char :=
  List.intercalate [':'] (groups.map (Nat.toDigits 16 ·))

/-- An IPv6 address as it is written: the longest run of two or more zero groups is left out. -/
def showV6 (groups : List Nat) : List Char :=
  let (start, length) := longestRun groups
  if length < 2 then colons groups
  else colons (groups.take start) ++ [':', ':'] ++ colons (groups.drop (start + length))

/-- An IPv4 address as it is written. -/
def showV4 (n : Nat) : List Char :=
  List.intercalate ['.'] ([n / 16777216 % 256, n / 65536 % 256, n / 256 % 256, n % 256].map
    (Nat.toDigits 10 ·))

end UpdateAgent.Ip
