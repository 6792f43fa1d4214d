import UpdateAgent.Session.Basic
import UpdateAgent.Message.Topic
import UpdateAgent.Message.Inbound
import UpdateAgent.Message.Outbound

/-!
# Registration

A device without credentials asks for them over a shared login: it subscribes to the registration
topic, publishes its request, and waits for a successful reply until a deadline. An attempt that
fails is repeated on a new connection after a pause. The credentials are stored before the machine
counts as registered; if they cannot be stored, the session ends at once.
-/

namespace UpdateAgent.Registration

/-- How a device registers. -/
structure Config where
  bootstrap : Login
  replyTimeout : Nat := 30000
  retry : RetryPolicy := {}

/-- Why a session ended without credentials. -/
inductive Error
  | invalidState (state : Machine.State)
  | storage (error : StoreError)
  | retryExhausted (attempts : UInt32)
  deriving DecidableEq

/-- The error as it is shown. -/
def Error.message : Error → String
  | invalidState state => "registration cannot run while " ++ state.text
  | storage error => error.credentialMessage
  | retryExhausted attempts =>
    "no valid registration reply after " ++ toString attempts.toNat ++ " attempts"

/-- Why one attempt ended without credentials. -/
inductive Setback
  | bus (error : BusError)
  | timeout
  | storage (error : StoreError)
  deriving DecidableEq

/-- Takes a message from the registration topic: the credentials of a successful reply that comes
while one is awaited are stored. Everything else is ignored. -/
def acceptReply (state : Machine.State) (payload : Bytes) :
    Program World (Except StoreError (Option Credentials)) := do
  if state ≠ .awaitingReply then return .ok none
  match RegistrationReply.decode payload with
  | .error _ => return .ok none
  | .ok credentials =>
    match ← World.store credentials with
    | .error error => return .error error
    | .ok () => return .ok (some credentials)

/-- Looks at the next message that comes before the deadline, and finishes with credentials or with
a setback. -/
def replyTurn (state : Machine.State) (link : Link) (deadline : Nat) :
    Program World (Next Unit (Except Setback Credentials)) := do
  match ← World.receiveBy link deadline with
  | .error error => return .finish (.error (.bus error))
  | .ok none => return .finish (.error .timeout)
  | .ok (some message) =>
    if message.topic ≠ Topic.register then return .again ()
    match ← acceptReply state message.payload with
    | .error error => return .finish (.error (.storage error))
    | .ok none => return .again ()
    | .ok (some credentials) =>
      discard (World.unsubscribe link Topic.register)
      return .finish (.ok credentials)

/-- Publishes the request on an open connection and waits for the reply to it. The deadline is
counted from the time at which the request was published. -/
def exchange (identity : DeviceIdentity) (config : Config) (state : Machine.State) (link : Link) :
    Program World (Except Setback Credentials) := do
  match ← World.subscribe link Topic.register with
  | .error error => return .error (.bus error)
  | .ok () =>
    match ← World.publish link Topic.register identity.request.bytes with
    | .error error => return .error (.bus error)
    | .ok () =>
      let deadline := (← World.now) + config.replyTimeout
      Program.iterate () fun _ => replyTurn state link deadline

/-- One attempt, on a connection of its own that is closed afterwards. -/
def attempt (identity : DeviceIdentity) (config : Config) (state : Machine.State) :
    Program World (Except Setback Credentials) := do
  match ← World.connect config.bootstrap with
  | .error error => return .error (.bus error)
  | .ok link =>
    let result ← exchange identity config state link
    World.close link
    return result

/-- One attempt and what it means for the session: nothing if another attempt may follow. -/
def tryOnce (identity : DeviceIdentity) (config : Config) :
    Session (Option (Except Error Credentials)) := do
  discard (Session.handle .registrationStarted)
  match ← attempt identity config (← get).state with
  | .ok credentials =>
    discard (Session.handle .registrationAccepted)
    return some (.ok credentials)
  | .error (.storage error) => return some (.error (.storage error))
  | .error _ => return none

/-- An attempt and up to `more` others, with a pause between two. -/
def attempts (identity : DeviceIdentity) (config : Config) :
    Nat → Session (Except Error Credentials)
  | 0 => do
    match ← tryOnce identity config with
    | some result => return result
    | none => return .error (.retryExhausted config.retry.attempts)
  | more + 1 => do
    match ← tryOnce identity config with
    | some result => return result
    | none =>
      World.pause config.retry.interval
      attempts identity config more

/-- Registers a device. The session runs only while the device has no credentials. -/
def run (identity : DeviceIdentity) (config : Config) : Session (Except Error Credentials) := do
  match (← get).state with
  | .unregistered | .awaitingReply =>
    attempts identity config (config.retry.attempts.toNat - 1)
  | state => return .error (.invalidState state)

end UpdateAgent.Registration
