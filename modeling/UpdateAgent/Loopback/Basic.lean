import UpdateAgent.Loopback.Broker
import UpdateAgent.Session.Cycle

/-!
# The loopback

Surroundings of a session in memory: the in-memory broker, a downloader that works through a list of
results, a store that holds credentials in memory, and a virtual clock. The connection may be lost
at given times.
-/

namespace UpdateAgent

/-- The stand-ins and the clock. -/
structure Loopback where
  clock : Nat := 0
  limit : Nat := 0
  broker : Loopback.Broker := {}
  /-- The times at which the connection is lost, in ascending order. -/
  losses : List Nat := []
  /-- What the fetches to come lead to. -/
  results : List (Except FetchError Image) := []
  /-- How long a fetch takes. -/
  delay : Nat := 0
  fetches : Nat := 0
  taskEnd : Nat := 0
  stored : Option Credentials := none
  stores : Nat := 0
  failsStore : Bool := false
  failsLoad : Bool := false
  state : Option Machine.State := none

namespace Loopback

/-- The device that the stand-ins are made for. -/
def identity (mac : MacAddress) : DeviceIdentity where
  mac
  version := "1.0.0"

/-- The address of that device. -/
def macAddress : MacAddress :=
  ⟨[0xAA, 0xBB, 0xCC, 0xDD, 0xEE, 0x01], rfl⟩

/-- The credentials of that device. -/
def credentials : Credentials where
  deviceId := "dev-1"
  username := "device-user"
  password := "device-pass"
  clientId := "device-client"

/-- The image that a fetch leads to. -/
def image : Image where
  path := "/tmp/firmware.bin"
  size := 4
  sha256 := "abcd"

/-- The results of a downloader that fails some times and then succeeds. -/
def failing (failures : Nat) : List (Except FetchError Image) :=
  List.replicate failures (.error (.status 503)) ++ [.ok image]

/-- How a failing access to the store fails. -/
def diskFailure : StoreError := .file (.other "disk failure")

/-- Sets the clock; the connection is lost if a time for that has come. -/
def goTo (s : Loopback) (time : Nat) : Loopback :=
  let due := s.losses.takeWhile (· ≤ time)
  { s with
    clock := max s.clock time
    losses := s.losses.dropWhile (· ≤ time)
    broker := if due.isEmpty then s.broker else s.broker.lose }

/-- Waits until a time, unless it lies beyond the limit: then the clock stops at the limit. -/
def waitUntil (s : Loopback) (time : Nat) : Option Unit × Loopback :=
  if s.limit < time then (none, s.goTo s.limit) else (some (), s.goTo time)

/-- What is heard on a connection, waiting until `deadline` if there is one. While nothing is there,
only a loss can come. -/
def listen (s : Loopback) (link : Link) (deadline : Option Nat) :
    Option (Except BusError (Option Message)) × Loopback :=
  match s.broker.next link with
  | (.error error, broker) => (some (.error error), { s with broker })
  | (.ok (some message), broker) => (some (.ok (some message)), { s with broker })
  | (.ok none, _) =>
    match s.losses.head?.filter fun time => deadline.all (time ≤ ·), deadline with
    | some time, _ =>
      match s.waitUntil time with
      | (none, s) => (none, s)
      | (some (), s) => (some (.error Broker.connectionReset), s)
    | none, some time =>
      match s.waitUntil time with
      | (none, s) => (none, s)
      | (some (), s) => (some (.ok none), s)
    | none, none => (none, s.goTo s.limit)

/-- Starts a task. -/
def start (s : Loopback) : Task → Loopback
  | .wait milliseconds => { s with taskEnd := s.clock + milliseconds }
  | .fetch _ => { s with taskEnd := s.clock + s.delay, fetches := s.fetches + 1 }

/-- The result of a task that is over. When the results are used up a fetch fails. -/
def finish (s : Loopback) : (task : Task) → task.Result × Loopback
  | .wait _ => ((), s)
  | .fetch _ => (s.results.headD (.error (.status 500)), { s with results := s.results.tail })

/-- Waits for the end of the running task, listening to a connection if there is one. -/
def turn (s : Loopback) (task : Task) (listening : Option Link) :
    Option (Turn task.Result) × Loopback :=
  let finished (s : Loopback) : Option (Turn task.Result) × Loopback :=
    let (result, s) := s.finish task
    (some (.over result), s)
  match listening with
  | none =>
    match s.waitUntil s.taskEnd with
    | (none, s) => (none, s)
    | (some (), s) => finished s
  | some link =>
    if s.taskEnd ≤ s.clock then finished s
    else
      match s.listen link (some s.taskEnd) with
      | (none, s) => (none, s)
      | (some (.error error), s) => (some (.lost error), s)
      | (some (.ok (some message)), s) => (some (.heard message), s)
      | (some (.ok none), s) => finished s

/-- Stores credentials. A store that fails changes nothing. -/
def store (s : Loopback) (credentials : Credentials) : Except StoreError Unit × Loopback :=
  if s.failsStore then (.error diskFailure, s)
  else (.ok (), { s with stored := some credentials, stores := s.stores + 1 })

/-- Makes a call on the broker. -/
def onBroker {α : Type} (s : Loopback) (call : Broker → α × Broker) : Option α × Loopback :=
  let (a, broker) := call s.broker
  (some a, { s with broker })

/-- Answers a call of a session. -/
def answer : Program.Surroundings World Loopback
  | .now, s => (some s.clock, s)
  | .pause milliseconds, s => s.waitUntil (s.clock + milliseconds)
  | .connect login, s => s.onBroker (·.connect login)
  | .subscribe link topic, s => s.onBroker (·.subscribe link topic)
  | .unsubscribe link topic, s => s.onBroker (·.unsubscribe link topic)
  | .publish link topic payload, s => s.onBroker (·.publish link ⟨topic, payload⟩)
  | .receive link, s =>
    match s.listen link none with
    | (some (.ok (some message)), s) => (some (.ok message), s)
    | (some (.ok none), s) => (none, s)
    | (some (.error error), s) => (some (.error error), s)
    | (none, s) => (none, s)
  | .receiveBy link deadline, s => s.listen link (some deadline)
  | .close link, s => s.onBroker fun broker => ((), broker.release link)
  | .start task, s => (some (), s.start task)
  | .turn task listening, s => s.turn task listening
  | .load, s => (some (if s.failsLoad then .error diskFailure else .ok s.stored), s)
  | .store credentials, s =>
    let (result, s) := s.store credentials
    (some result, s)
  | .announce state, s => (some (), { s with state := some state })

/-- More turns than a loop takes in the loopback: each consumes a message or an attempt. -/
def turns : Nat := Nat.pow 2 48

/-- Runs a program until the clock stops at `limit`; a program that is given up leaves its
connections, which closes them. -/
def play {α : Type} (s : Loopback) (limit : Nat) (program : Program World α) :
    Option α × Loopback :=
  match program.run answer turns { s with limit } with
  | (some a, s) => (some a, s)
  | (none, s) => (none, { s with broker := s.broker.releaseAll })

/-- Runs a whole cycle, from the stored credentials to its end. -/
def bootCycle (config : CycleConfig) : Program World (CycleOutcome × Machine.State) := do
  let cycle ← Cycle.load config
  let (outcome, cycle) ← cycle.run config
  return (outcome, cycle.machine.state)

end Loopback

end UpdateAgent
