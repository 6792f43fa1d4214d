import UpdateAgent.Device

/-!
# Messages that a device sends

The registration request and the status reports. Both are an object that names an action and
carries a payload.
-/

namespace UpdateAgent

/-- What the backend is asked to do. -/
inductive Action
  | add
  | set
  deriving DecidableEq

/-- The action as it is written. -/
def Action.text : Action → String
  | add => "add"
  | set => "set"

/-- An action with its payload. -/
def Action.envelope (action : Action) (payload : Json.Value) : Json.Value :=
  .object [("action", .text action.text), ("payload", payload)]

/-- The request of a device for credentials. -/
def DeviceIdentity.request (identity : DeviceIdentity) : Json.Value :=
  Action.add.envelope (.object [
    ("mac_address", .text identity.mac.text),
    ("firmwareVersion", .text identity.version)])

/-- How far an update has come. -/
inductive UpdateStatus
  | received
  | downloaded
  | succeeded
  | failed
  deriving DecidableEq

/-- The status as it is written. -/
def UpdateStatus.text : UpdateStatus → String
  | received => "received"
  | downloaded => "downloaded"
  | succeeded => "true"
  | failed => "false"

/-- What a device reports about an update. -/
structure StatusReport where
  status : UpdateStatus
  url : String
  error : Option String := none
  deriving DecidableEq

namespace StatusReport

/-- The trigger was received. -/
def received (url : String) : StatusReport where
  status := .received
  url

/-- The image was downloaded. -/
def downloaded (url : String) : StatusReport where
  status := .downloaded
  url

/-- The image is ready to boot. -/
def succeeded (url : String) : StatusReport where
  status := .succeeded
  url

/-- The image could not be downloaded. -/
def failed (url : String) (error : String) : StatusReport where
  status := .failed
  url
  error := some error

/-- The report as a message; an error is written only if there is one. -/
def message (report : StatusReport) : Json.Value :=
  let error := match report.error with
    | some error => [("error", Json.Value.text error)]
    | none => []
  Action.set.envelope (.object
    ([("status", .text report.status.text), ("url", .text report.url)] ++ error))

end StatusReport

end UpdateAgent
