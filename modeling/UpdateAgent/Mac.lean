import UpdateAgent.Text.Blank
import UpdateAgent.Text.Hex

/-!
# Hardware addresses

A MAC address is six octets. It is read from six groups of two hexadecimal digits with a colon or a
hyphen between them, white space around the whole allowed, and written in upper case with colons, or
compactly as twelve lower-case digits.
-/

namespace UpdateAgent

/-- A MAC address. -/
structure MacAddress where
  octets : Bytes
  six : octets.length = 6
  deriving DecidableEq

namespace MacAddress

/-- A text that is no MAC address, without the white space around it. -/
structure ParseError where
  text : String
  deriving DecidableEq

/-- The error as it is shown. -/
def ParseError.message (e : ParseError) : String :=
  "failed to parse MAC address, expected six hex octets like 'AA:BB:CC:DD:EE:FF': got '"
    ++ e.text ++ "'"

/-- The groups of an address may be separated by this character. -/
def isSeparator (c : Char) : Bool :=
  c == ':' || c == '-'

/-- One or more groups of two digits, with a separator between neighbours. -/
def groups? : List Char → Option Bytes
  | [high, low] => (Hex.byte? high low).map ([·])
  | high :: low :: separator :: rest =>
    if isSeparator separator then do
      let b ← Hex.byte? high low
      let bs ← groups? rest
      pure (b :: bs)
    else none
  | _ => none

/-- Reads an address. -/
def parse (s : String) : Except ParseError MacAddress :=
  let trimmed := Text.trim s.toList
  match groups? trimmed with
  | some octets =>
    if six : octets.length = 6 then .ok ⟨octets, six⟩ else .error ⟨String.ofList trimmed⟩
  | none => .error ⟨String.ofList trimmed⟩

/-- The groups in upper case, joined by colons. -/
def text (mac : MacAddress) : String :=
  String.ofList (List.intercalate [':'] (mac.octets.map Hex.ofByteUpper))

/-- The twelve digits in lower case. -/
def compact (mac : MacAddress) : String :=
  String.ofList (Hex.ofBytes mac.octets)

end MacAddress

end UpdateAgent
