import UpdateAgent.Url.Basic
import UpdateAgent.Fetch

/-!
# Image addresses

Firmware images are fetched over HTTP or HTTPS. An address that is no such address is refused before
anything is sent.
-/

namespace UpdateAgent

namespace ImageAddress

/-- Reads the address of an image. -/
def read (text : String) : Except FetchError Url :=
  match Url.parse text with
  | .error error => .error (.invalidUrl (text ++ ": " ++ error.message))
  | .ok url =>
    if url.scheme = "http" ∨ url.scheme = "https" then .ok url
    else .error (.invalidUrl (text ++ ": unsupported scheme '" ++ url.scheme ++ "'"))

/-- A request cannot name a host that holds one of these characters. -/
def isUnsendable (c : Char) : Bool :=
  c == '"' || c == '{' || c == '}' || c == '\x60'

/-- A request for the address can be made. -/
def isSendable (url : Url) : Bool :=
  match url.host with
  | some (.name domain) => !domain.any isUnsendable
  | _ => true

/-- How a fetch ends while no server can be reached. The address is told as it was given. -/
def failure (text : String) : FetchError :=
  match read text with
  | .error error => error
  | .ok url => .request (if isSendable url then .unreachable text else .refused)

end ImageAddress

end UpdateAgent
