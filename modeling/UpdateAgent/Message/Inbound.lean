import UpdateAgent.Device

/-!
# Messages that a device receives

Registration replies and update triggers. Decoding fails closed: a message that lacks a field, has
it twice or with the wrong type, is malformed.
-/

namespace UpdateAgent

/-- Why a message is not taken. -/
inductive MessageError
  | malformed
  | rejected
  | emptyUrl
  deriving DecidableEq

/-- The error as it is shown. In the log, what the reader of documents says of a malformed message
comes after it. -/
def MessageError.message : MessageError → String
  | malformed => "malformed message"
  | rejected => "registration was rejected"
  | emptyUrl => "update trigger has an empty url"

namespace RegistrationReply

/-- Whether a reply is a successful one. -/
def success? (raw : Json.Raw) : Option Bool := do
  let fields ← raw.fields? ["success"]
  let field ← Json.Raw.only? fields
  field.bool?

/-- The names of the credential fields of a reply. -/
def credentialFields : List String :=
  ["deviceID", "user", "pass", "clientID"]

/-- The credentials that a successful reply carries. -/
def credentials? (raw : Json.Raw) : Option Credentials :=
  (raw.fields? credentialFields).bind Credentials.ofFields?

/-- Reads a reply: first whether it is a successful one, then its credentials. -/
def decode (payload : Bytes) : Except MessageError Credentials :=
  match Json.Raw.read? payload with
  | none => .error .malformed
  | some raw =>
    match success? raw with
    | none => .error .malformed
    | some false => .error .rejected
    | some true =>
      match credentials? raw with
      | none => .error .malformed
      | some c => .ok c

/-- The reply that issues credentials. -/
def document (c : Credentials) : Json.Value :=
  .object [
    ("clientID", .text c.clientId),
    ("deviceID", .text c.deviceId),
    ("pass", .text c.password),
    ("success", .bool true),
    ("user", .text c.username)]

end RegistrationReply

namespace UpdateTrigger

/-- The address that a trigger carries. -/
def url? (payload : Bytes) : Option String := do
  let raw ← Json.Raw.read? payload
  let fields ← raw.fields? ["url"]
  let field ← Json.Raw.only? fields
  field.text?

/-- Reads a trigger: the address of the image to fetch, which must not be blank. -/
def decode (payload : Bytes) : Except MessageError String :=
  match url? payload with
  | none => .error .malformed
  | some url => if Text.trim url.toList = [] then .error .emptyUrl else .ok url

/-- The trigger for an address. -/
def document (url : String) : Json.Value :=
  .object [("url", .text url)]

end UpdateTrigger

end UpdateAgent
