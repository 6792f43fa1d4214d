import UpdateAgent.Mac
import UpdateAgent.Text.Quoted
import UpdateAgent.Json.Value

/-!
# Devices and their credentials

What a device tells about itself, the credentials it is issued, and the logins it opens broker
connections with. Texts shown in logs never hold a password.
-/

namespace UpdateAgent

/-- What a device registers with. -/
structure DeviceIdentity where
  mac : MacAddress
  version : String
  deriving DecidableEq

/-- What the backend issues to a registered device. -/
structure Credentials where
  deviceId : String
  username : String
  password : String
  clientId : String
  deriving DecidableEq

/-- A broker login. -/
structure Login where
  clientId : String
  username : Option String := none
  password : Option String := none
  deriving DecidableEq

/-- The login of a registered device. -/
def Login.ofCredentials (c : Credentials) : Login where
  clientId := c.clientId
  username := some c.username
  password := some c.password

/-- What stands for a password where a login is shown. -/
def redacted : String := "<redacted>"

/-- A login as it is shown in logs. -/
def Login.shown (login : Login) : String :=
  Text.record "ClientAuth" [
    ("client_id", Text.quoted login.clientId),
    ("username", Text.quotedOption login.username),
    ("password", Text.quotedOption (login.password.map fun _ => redacted))]

namespace Credentials

/-- Credentials as they are shown in logs. -/
def shown (c : Credentials) : String :=
  Text.record "Credentials" [
    ("device_id", "DeviceId(" ++ Text.quoted c.deviceId ++ ")"),
    ("username", Text.quoted c.username),
    ("password", Text.quoted redacted),
    ("client_id", Text.quoted c.clientId)]

/-- The names of the fields of the stored document, in the order they are written. -/
def documentFields : List String :=
  ["device_id", "username", "password", "client_id"]

/-- The document that credentials are stored as. -/
def document (c : Credentials) : Json.Value :=
  .object [
    ("device_id", .text c.deviceId),
    ("username", .text c.username),
    ("password", .text c.password),
    ("client_id", .text c.clientId)]

/-- The credentials of four fields. -/
def ofFields? : List Json.Raw → Option Credentials
  | [deviceId, username, password, clientId] => do
    let deviceId ← deviceId.text?
    let username ← username.text?
    let password ← password.text?
    let clientId ← clientId.text?
    pure { deviceId, username, password, clientId }
  | _ => none

/-- Reads the stored document. -/
def ofDocument? (bytes : Bytes) : Option Credentials := do
  let raw ← Json.Raw.read? bytes
  let fields ← raw.fields? documentFields
  ofFields? fields

end Credentials

end UpdateAgent
