import UpdateAgent.Json.Text

/-!
# The shape of a JSON document

`Raw.read?` takes a byte string apart into the one value that it writes, white space around it
allowed. The shape keeps strings as pieces and numbers as digits, so a document whose strings do not
decode, or whose numbers no machine word holds, still has a shape; what a part means is asked only
where it is used.
-/

namespace UpdateAgent.Json

/-- A number as it is written. -/
structure Numeral where
  negative : Bool
  whole : List Nat
  fraction : Option (List Nat)
  exponent : Option (Bool × List Nat)
  deriving DecidableEq

/-- A value as it is written. -/
inductive Raw
  | null
  | bool (b : Bool)
  | number (n : Numeral)
  | text (pieces : List Piece)
  | list (items : List Raw)
  | object (members : List (List Piece × Raw))

namespace Raw

/-- JSON's white space. -/
def isBlank (b : UInt8) : Bool :=
  b == ascii ' ' || b == ascii '\n' || b == ascii '\t' || b == ascii '\r'

/-- A byte string without the white space before it. -/
def skipBlank (bytes : Bytes) : Bytes :=
  bytes.dropWhile isBlank

/-- An ASCII digit. -/
def isDigit (b : UInt8) : Bool :=
  0x30 ≤ b.toNat && b.toNat ≤ 0x39

/-- The digits that a byte string begins with. -/
def digits (bytes : Bytes) : List Nat :=
  (bytes.takeWhile isDigit).map fun b => b.toNat - 0x30

/-- What follows the digits that a byte string begins with. -/
def afterDigits (bytes : Bytes) : Bytes :=
  bytes.dropWhile isDigit

/-- Whether a byte string begins with this byte, and what follows it if so. -/
def accept (b : UInt8) : Bytes → Bool × Bytes
  | [] => (false, [])
  | c :: rest => if c = b then (true, rest) else (false, c :: rest)

/-- The fraction that a byte string begins with, if it begins with a point. -/
def fraction? (bytes : Bytes) : Option (Option (List Nat) × Bytes) :=
  match accept (ascii '.') bytes with
  | (false, bytes) => some (none, bytes)
  | (true, bytes) =>
    match digits bytes with
    | [] => none
    | ds => some (some ds, afterDigits bytes)

/-- Drops a plus sign, or drops a minus sign and tells so. -/
def sign (bytes : Bytes) : Bool × Bytes :=
  match accept (ascii '-') bytes with
  | (true, bytes) => (true, bytes)
  | (false, bytes) => (false, (accept (ascii '+') bytes).2)

/-- The exponent that a byte string begins with, if it begins with an E. -/
def exponent? (bytes : Bytes) : Option (Option (Bool × List Nat) × Bytes) :=
  match bytes with
  | [] => some (none, [])
  | b :: rest =>
    if b = ascii 'e' ∨ b = ascii 'E' then
      let (negative, rest) := sign rest
      match digits rest with
      | [] => none
      | ds => some (some (negative, ds), afterDigits rest)
    else some (none, b :: rest)

/-- The number that a byte string begins with. Of several digits before the point the first is not
zero. -/
def numeral? (bytes : Bytes) : Option (Numeral × Bytes) := do
  let (negative, bytes) := accept (ascii '-') bytes
  let whole ← match digits bytes with
    | [] => none
    | 0 :: _ :: _ => none
    | ds => some ds
  let (fraction, bytes) ← fraction? (afterDigits bytes)
  let (exponent, bytes) ← exponent? bytes
  pure ({ negative, whole, fraction, exponent }, bytes)

/-- What follows a word that a byte string begins with. -/
def afterWord? : List Char → Bytes → Option Bytes
  | [], bytes => some bytes
  | c :: word, b :: bytes => if b = ascii c then afterWord? word bytes else none
  | _ :: _, [] => none

mutual

/-- The value that a byte string begins with and what follows it, in at most `turns` turns. -/
def value? : Nat → Bytes → Option (Raw × Bytes)
  | 0, _ => none
  | turns + 1, bytes =>
    match skipBlank bytes with
    | [] => none
    | b :: rest =>
      if b = ascii '"' then
        match Text.scan [] rest with
        | some (pieces, rest) => some (.text pieces, rest)
        | none => none
      else if b = ascii '[' then
        match accept (ascii ']') (skipBlank rest) with
        | (true, rest) => some (.list [], rest)
        | (false, rest) => items? turns [] rest
      else if b = ascii '{' then
        match accept (ascii '}') (skipBlank rest) with
        | (true, rest) => some (.object [], rest)
        | (false, rest) => members? turns [] rest
      else if b = ascii 'n' then
        (afterWord? ['u', 'l', 'l'] rest).map (.null, ·)
      else if b = ascii 't' then
        (afterWord? ['r', 'u', 'e'] rest).map (.bool true, ·)
      else if b = ascii 'f' then
        (afterWord? ['a', 'l', 's', 'e'] rest).map (.bool false, ·)
      else
        match numeral? (b :: rest) with
        | some (n, rest) => some (.number n, rest)
        | none => none

/-- A list whose first items are those of `done` in reverse, from its next item on. -/
def items? : Nat → List Raw → Bytes → Option (Raw × Bytes)
  | 0, _, _ => none
  | turns + 1, done, bytes =>
    match value? turns bytes with
    | none => none
    | some (item, rest) =>
      match skipBlank rest with
      | [] => none
      | b :: rest =>
        if b = ascii ',' then items? turns (item :: done) rest
        else if b = ascii ']' then some (.list (item :: done).reverse, rest)
        else none

/-- An object whose first members are those of `done` in reverse, from its next member on. -/
def members? : Nat → List (List Piece × Raw) → Bytes → Option (Raw × Bytes)
  | 0, _, _ => none
  | turns + 1, done, bytes =>
    match accept (ascii '"') (skipBlank bytes) with
    | (false, _) => none
    | (true, rest) =>
      match Text.scan [] rest with
      | none => none
      | some (key, rest) =>
        match accept (ascii ':') (skipBlank rest) with
        | (false, _) => none
        | (true, rest) =>
          match value? turns rest with
          | none => none
          | some (value, rest) =>
            match skipBlank rest with
            | [] => none
            | b :: rest =>
              if b = ascii ',' then members? turns ((key, value) :: done) rest
              else if b = ascii '}' then some (.object ((key, value) :: done).reverse, rest)
              else none

end

/-- The value that a byte string writes. Of two turns one consumes a byte, so twice the length is
enough. -/
def read? (bytes : Bytes) : Option Raw :=
  match value? (2 * bytes.length + 2) bytes with
  | some (value, rest) => if skipBlank rest = [] then some value else none
  | none => none

/-- The text that a value writes, if it is a string that decodes. -/
def text? : Raw → Option String
  | text pieces => Text.text? pieces
  | _ => none

/-- The truth value that a value writes. -/
def bool? : Raw → Option Bool
  | bool b => some b
  | _ => none

/-- The only item of a list. -/
def only? {α : Type} : List α → Option α
  | [a] => some a
  | _ => none

/-- The members of an object with their keys decoded; every key must decode. -/
def keyed? (members : List (List Piece × Raw)) : Option (List (String × Raw)) :=
  members.mapM fun (key, value) => (Text.text? key).map (·, value)

/-- The values of the fields of a record, in the order of `names`. A record is written as an object
in which each field occurs once, among any other members, or as the list of its fields in order. -/
def fields? (names : List String) : Raw → Option (List Raw)
  | list items => if items.length = names.length then some items else none
  | object members => do
    let members ← keyed? members
    names.mapM fun name => only? ((members.filter (·.1 = name)).map (·.2))
  | _ => none

end Raw

end UpdateAgent.Json
