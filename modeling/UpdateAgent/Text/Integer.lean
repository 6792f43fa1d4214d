/-!
# Integers

Decimal integers within bounds, read digit by digit: the first character that is no digit, or the
first digit at which the value leaves the bounds, decides which error it is.
-/

namespace UpdateAgent

/-- Why a text is no integer within bounds. -/
inductive IntegerError
  | empty
  | invalidDigit
  | tooLarge
  | tooSmall
  deriving DecidableEq

/-- The error as it is shown. -/
def IntegerError.message : IntegerError → String
  | empty => "cannot parse integer from empty string"
  | invalidDigit => "invalid digit found in string"
  | tooLarge => "number too large to fit in target type"
  | tooSmall => "number too small to fit in target type"

namespace Integer

/-- The value of digits up to `most`, which otherwise are beyond the bounds. -/
def magnitude (most : Nat) (beyond : IntegerError) (digits : List Char) :
    Except IntegerError Nat :=
  digits.foldlM (fun n c =>
    if c.isDigit then
      let n := n * 10 + (c.toNat - 0x30)
      if n ≤ most then .ok n else .error beyond
    else .error .invalidDigit) 0

/-- Reads a natural number up to `most`, with or without a plus sign. -/
def readNatural (most : Nat) : List Char → Except IntegerError Nat
  | [] => .error .empty
  | ['+'] => .error .invalidDigit
  | '+' :: digits => magnitude most .tooLarge digits
  | digits => magnitude most .tooLarge digits

/-- Reads an integer of at most `most` and at least `-(most + 1)`, with or without a sign. -/
def readSigned (most : Nat) : List Char → Except IntegerError Int
  | ['-'] => .error .invalidDigit
  | '-' :: digits => (magnitude (most + 1) .tooSmall digits).map fun n => -Int.ofNat n
  | cs => (readNatural most cs).map Int.ofNat

end Integer

end UpdateAgent
