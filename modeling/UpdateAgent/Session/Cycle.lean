import UpdateAgent.Session.Registration
import UpdateAgent.Session.Update

/-!
# The boot cycle

What a device does between two restarts: it loads its credentials, registers if it has none, and
waits for an update. Every way through ends in an outcome, after which the device restarts.
-/

namespace UpdateAgent

/-- What a device knows when it boots. -/
structure CycleConfig where
  identity : DeviceIdentity
  registration : Registration.Config
  update : Update.Config

/-- Why a cycle could not be completed. -/
inductive CycleError
  | registration (error : Registration.Error)
  | update (error : Update.Error)
  deriving DecidableEq

/-- The error as it is shown. -/
def CycleError.message : CycleError → String
  | registration error => "registration failed: " ++ error.message
  | update error => "update session failed: " ++ error.message

/-- Why the device has to restart. -/
inductive CycleOutcome
  | updated (image : Image)
  | updateFailed (attempts : UInt32) (error : FetchError)
  | aborted (error : CycleError)
  deriving DecidableEq

/-- A cycle under way: the credentials not yet used, and the machine. -/
structure Cycle where
  credentials : Option Credentials
  machine : Machine

namespace Cycle

/-- The cycle of a device whose stored credentials are these, if any. -/
def prepare (config : CycleConfig) (credentials : Option Credentials) : Cycle where
  credentials
  machine := .restore credentials.isSome config.update.retry.maxAttempts

/-- Prepares the cycle from the stored credentials. If they cannot be read the device registers
again. -/
def load (config : CycleConfig) : Program World Cycle := do
  match ← World.load with
  | .ok credentials => return prepare config credentials
  | .error _ => return prepare config none

/-- The credentials of a device, by registration if there are none. -/
def obtain (config : CycleConfig) :
    Option Credentials → Session (Except Registration.Error Credentials)
  | some credentials => return .ok credentials
  | none => Registration.run config.identity config.registration

/-- Registers if need be, then waits for an update. -/
def provision (config : CycleConfig) (credentials : Option Credentials) :
    Session CycleOutcome := do
  match ← obtain config credentials with
  | .error error => return .aborted (.registration error)
  | .ok credentials =>
    match ← Update.run credentials config.update with
    | .error error => return .aborted (.update error)
    | .ok (.updated image) => return .updated image
    | .ok (.failed attempts error) => return .updateFailed attempts error

/-- Runs the cycle, which uses up its credentials. -/
def run (config : CycleConfig) (cycle : Cycle) : Program World (CycleOutcome × Cycle) := do
  let (outcome, machine) ← (provision config cycle.credentials).run cycle.machine
  return (outcome, { credentials := none, machine })

end Cycle

end UpdateAgent
