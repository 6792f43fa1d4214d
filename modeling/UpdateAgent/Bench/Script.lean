import UpdateAgent.Session.World

/-!
# Scripts

How the collaborators of a session behave on the bench: what each connection does, how each fetch
ends, and which accesses to the store fail. Times are in milliseconds.
-/

namespace UpdateAgent.Bench

/-- A message that comes some time after what brings it about. -/
structure Delivery where
  message : Message
  after : Nat := 0

/-- How one connection behaves. -/
structure ConnectionScript where
  /-- The broker refuses the connection, for this reason. -/
  refusal : Option String := none
  /-- How long it takes to connect. -/
  delay : Nat := 0
  /-- Delivered after the connect, subscribed or not. -/
  inbound : List Delivery := []
  /-- Delivered after a subscription to their topic. -/
  retained : List Delivery := []
  /-- Delivered after the publish of this number, counted from zero. -/
  onPublish : List (Nat × Delivery) := []
  /-- A message published to a topic that is subscribed comes back at once. -/
  echo : Bool := false
  /-- Topics that may not be subscribed. -/
  denied : List String := []
  /-- The numbers of the publishes that fail. -/
  failedPublishes : List Nat := []
  /-- No subscription can be given up. -/
  failsUnsubscribe : Bool := false
  /-- The connection is lost this long after the connect. -/
  dropAfter : Option Nat := none
  /-- The connection is lost right after the publish of this number. -/
  dropOnPublish : Option Nat := none
  /-- The connection is lost right after the subscription of this number. -/
  dropOnSubscribe : Option Nat := none

/-- How one fetch ends, and after how long. -/
structure FetchScript where
  delay : Nat := 0
  result : Except FetchError Image

/-- What the store holds at first, and which accesses fail. -/
structure StoreScript where
  initial : Option Credentials := none
  failsLoad : Bool := false
  failedStores : List Nat := []

/-- The connection when the scripts are used up. -/
def unreachable : ConnectionScript where
  refusal := some "connection refused"

/-- The fetch when the scripts are used up. -/
def unavailable : FetchScript where
  result := .error (.status 500)

/-- How a failing access to the store fails. -/
def diskFailure : StoreError := .file (.other "disk failure")

/-- What a lost or closed connection answers. -/
def connectionReset : BusError := .connectionLost "connection reset"

/-- What a publish or unsubscribe that is scripted to fail answers. -/
def queueFull : BusError := .request "queue full"

end UpdateAgent.Bench
