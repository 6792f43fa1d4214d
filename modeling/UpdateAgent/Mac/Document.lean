import UpdateAgent.Mac
import UpdateAgent.Json.Value

/-!
# Hardware addresses in documents

An address is stored as the text that it is written as, and any text that it can be read from is
accepted.
-/

namespace UpdateAgent.MacAddress

/-- The document of an address. -/
def document (mac : MacAddress) : Json.Value :=
  .text mac.text

/-- Reads the document of an address. -/
def ofDocument? (bytes : Bytes) : Option MacAddress := do
  let raw ← Json.Raw.read? bytes
  let text ← raw.text?
  (parse text).toOption

end UpdateAgent.MacAddress
