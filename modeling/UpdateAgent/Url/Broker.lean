import UpdateAgent.Url.Basic
import UpdateAgent.Session.World

/-!
# Broker addresses

Where a broker listens, read from an address such as `mqtt://broker.local:1883`.
-/

namespace UpdateAgent

/-- Where a broker listens. -/
structure BrokerAddress where
  host : String
  port : Nat
  deriving DecidableEq

namespace BrokerAddress

/-- The port of a broker if the address gives none. -/
def defaultPort : Nat := 1883

/-- Why an address is refused. -/
inductive Error
  | malformed (error : UrlError)
  | unsupported (scheme : String)
  | noHost
  deriving DecidableEq

/-- The error as it is shown. -/
def Error.message : Error → String
  | malformed error => error.message
  | unsupported scheme => "unsupported scheme '" ++ scheme ++ "'"
  | noHost => "missing host"

/-- Reads the address of a broker. -/
def read (uri : String) : Except Error BrokerAddress :=
  match Url.parse uri with
  | .error error => .error (.malformed error)
  | .ok url =>
    if url.scheme ≠ "mqtt" ∧ url.scheme ≠ "tcp" then .error (.unsupported url.scheme)
    else
      match url.host with
      | none => .error .noHost
      | some host => .ok { host := host.text, port := url.port.getD defaultPort }

/-- Reads the address of a broker that is to be connected to. -/
def ofUri (uri : String) : Except BusError BrokerAddress :=
  match read uri with
  | .ok address => .ok address
  | .error error => .error (.connect (uri ++ ": " ++ error.message))

end BrokerAddress

end UpdateAgent
