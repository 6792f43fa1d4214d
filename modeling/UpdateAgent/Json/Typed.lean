import UpdateAgent.Json.Number

/-!
# Typed documents

Documents of one expected form: a small number, or a list of texts.
-/

namespace UpdateAgent.Json

/-- The number below 256 that a value writes, without sign, fraction or exponent. -/
def Raw.octet? : Raw → Option Nat
  | .number { negative := false, whole, fraction := none, exponent := none } =>
    let n := Number.ofDigits whole
    if n < 256 then some n else none
  | _ => none

/-- The texts that a list of strings writes. -/
def Raw.texts? : Raw → Option (List String)
  | .list items => items.mapM Raw.text?
  | _ => none

/-- Reads a number below 256. -/
def readOctet? (bytes : Bytes) : Option Nat :=
  (Raw.read? bytes).bind Raw.octet?

/-- Reads a list of texts. -/
def readTexts? (bytes : Bytes) : Option (List String) :=
  (Raw.read? bytes).bind Raw.texts?

end UpdateAgent.Json
