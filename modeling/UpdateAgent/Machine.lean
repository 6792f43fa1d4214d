/-!
# The provisioning machine

The single record of how far a device has come, driven by events. Every event either moves the
machine forward or is ignored, and watchers are told of each move.
-/

namespace UpdateAgent

/-- A value that others watch: each `send` counts as one change. -/
structure Watched (α : Type) where
  value : α
  changes : Nat := 0
  deriving DecidableEq

/-- Replaces the value and tells the watchers. -/
def Watched.send {α : Type} (w : Watched α) (value : α) : Watched α :=
  { value, changes := w.changes + 1 }

namespace Machine

/-- How far the device has come. -/
inductive State
  | unregistered
  | awaitingReply
  | registered
  | awaitingTrigger
  | downloading (attempt : UInt32)
  | succeeded
  | failed
  deriving DecidableEq

namespace State

/-- Nothing follows this state. -/
def isTerminal : State → Bool
  | succeeded | failed => true
  | _ => false

/-- The download attempt under way, counted from zero. -/
def attempt? : State → Option UInt32
  | downloading attempt => some attempt
  | _ => none

/-- The state as it is shown; attempts are counted from one. -/
def text : State → String
  | unregistered => "unregistered"
  | awaitingReply => "awaiting registration reply"
  | registered => "registered"
  | awaitingTrigger => "awaiting update trigger"
  | downloading attempt => "downloading (attempt " ++ toString (attempt + 1).toNat ++ ")"
  | succeeded => "succeeded"
  | failed => "failed"

end State

/-- What can happen to a device. -/
inductive Event
  | registrationStarted
  | registrationAccepted
  | subscribed
  | triggerAccepted
  | fetchFailed
  | fetchSucceeded
  deriving DecidableEq

/-- What an event did. -/
inductive Transition
  | moved (source target : State)
  | ignored (state : State) (event : Event)
  deriving DecidableEq

/-- The event had no effect. -/
def Transition.isIgnored : Transition → Bool
  | moved .. => false
  | ignored .. => true

/-- The state that an event leads to from a state, where up to `budget` downloads may be attempted;
nothing if the event does not count there. -/
def State.next? (budget : UInt32) : State → Event → Option State
  | .unregistered, .registrationStarted => some .awaitingReply
  | .awaitingReply, .registrationAccepted => some .registered
  | .registered, .subscribed => some .awaitingTrigger
  | .awaitingTrigger, .triggerAccepted => some (.downloading 0)
  | .downloading attempt, .fetchFailed =>
    if attempt + 1 < budget then some (.downloading (attempt + 1)) else some .failed
  | .downloading _, .fetchSucceeded => some .succeeded
  | _, _ => none

end Machine

/-- The state of a device, its download budget, and what its watchers see. -/
structure Machine where
  state : Machine.State
  budget : UInt32
  watched : Watched Machine.State
  deriving DecidableEq

namespace Machine

/-- The machine of a device that is not registered. A budget of no attempt counts as one. -/
def new (budget : UInt32) : Machine where
  state := .unregistered
  budget := max budget 1
  watched := { value := .unregistered }

/-- The machine of a device that has come back, `isRegistered` if it has credentials. -/
def restore (isRegistered : Bool) (budget : UInt32) : Machine :=
  let machine := new budget
  if isRegistered then
    { machine with state := .registered, watched := machine.watched.send .registered }
  else machine

/-- Tells the machine that something happened. -/
def handle (machine : Machine) (event : Event) : Transition × Machine :=
  match machine.state.next? machine.budget event with
  | some target =>
    (.moved machine.state target,
      { machine with state := target, watched := machine.watched.send target })
  | none => (.ignored machine.state event, machine)

end Machine

end UpdateAgent
