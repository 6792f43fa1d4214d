import UpdateAgent.Bench.Connection

/-!
# The bench

Sessions on a virtual clock, with scripted collaborators that log every call. The clock moves only
when a session waits, and a session is given up when it would wait beyond its limit.
-/

namespace UpdateAgent

namespace Bench

/-- What a collaborator was asked, and how it answered. -/
inductive Record
  | connect (login : Login) (refusal : Option String)
  | subscribe (topic : String) (result : Except BusError Unit)
  | unsubscribe (topic : String) (result : Except BusError Unit)
  | publish (topic : String) (payload : Bytes) (result : Except BusError Unit)
  | close
  | abandon
  | fetch (url : String)
  | fetched (error : Option FetchError)
  | load (isOk : Bool)
  | store (credentials : Credentials) (isOk : Bool)

/-- A record with the time and the state that the machine was in, if there was one. -/
structure Entry where
  time : Nat
  state : Option Machine.State
  record : Record

end Bench

/-- The collaborators, the clock and the log. The log has its latest entry first. -/
structure Bench where
  clock : Nat := 0
  limit : Nat := 0
  connects : List Bench.ConnectionScript := []
  fetches : List Bench.FetchScript := []
  storeScript : Bench.StoreScript := {}
  connections : List Bench.Connection := []
  stores : Nat := 0
  stored : Option Credentials := none
  taskEnd : Nat := 0
  fetch : Bench.FetchScript := Bench.unavailable
  state : Option Machine.State := none
  isOpen : Nat := 0
  mostOpen : Nat := 0
  log : List Bench.Entry := []

namespace Bench

/-- The bench with these scripts. -/
def ofScripts (connects : List ConnectionScript) (fetches : List FetchScript)
    (storeScript : StoreScript) : Bench where
  connects
  fetches
  storeScript
  stored := storeScript.initial

/-- Logs a call. -/
def record (b : Bench) (r : Record) : Bench :=
  { b with log := ⟨b.clock, b.state, r⟩ :: b.log }

/-- Waits until a time, unless it lies beyond the limit: then the clock stops at the limit. -/
def waitUntil (b : Bench) (time : Nat) : Option Unit × Bench :=
  if time ≤ b.clock then (some (), b)
  else if b.limit < time then (none, { b with clock := max b.clock b.limit })
  else (some (), { b with clock := time })

/-- Waits for what never comes. -/
def waitForever (b : Bench) : Bench :=
  { b with clock := max b.clock b.limit }

/-- Replaces a connection. -/
def update (b : Bench) (link : Link) (c : Connection) : Bench :=
  { b with connections := b.connections.set link c }

/-- Opens the next scripted connection. -/
def connect (b : Bench) (login : Login) : Option (Except BusError Link) × Bench :=
  let script := b.connects.headD unreachable
  let b := { b with connects := b.connects.tail }
  match b.waitUntil (b.clock + script.delay) with
  | (none, b) => (none, b)
  | (some (), b) =>
    let b := b.record (.connect login script.refusal)
    match script.refusal with
    | some text => (some (.error (.connect text)), b)
    | none =>
      (some (.ok b.connections.length), { b with
        connections := b.connections ++ [.opened script b.clock]
        isOpen := b.isOpen + 1
        mostOpen := max b.mostOpen (b.isOpen + 1) })

/-- Makes a call on a connection; there is nothing to call on one that was never opened. -/
def onConnection (b : Bench) (link : Link)
    (call : Connection → Except BusError Unit × Connection)
    (r : Except BusError Unit → Record) : Option (Except BusError Unit) × Bench :=
  match b.connections[link]? with
  | none => (some (.error connectionReset), b)
  | some c =>
    let (result, c) := call c
    (some result, (b.update link c).record (r result))

/-- Closes a connection. Only the first close is a close. -/
def close (b : Bench) (link : Link) : Bench :=
  match b.connections[link]? with
  | none => b
  | some c =>
    if c.isClosed then b
    else { (b.update link { c with isClosed := true }).record .close with isOpen := b.isOpen - 1 }

/-- What is heard on a connection, waiting until `deadline` if there is one; nothing is heard at the
deadline itself only if nothing is due then. -/
def listen (b : Bench) (link : Link) (deadline : Option Nat) :
    Option (Except BusError (Option Message)) × Bench :=
  match b.connections[link]? with
  | none => (some (.error connectionReset), b)
  | some c =>
    match c.arrival b.clock with
    | .lost => (some (.error connectionReset), b)
    | .message m c => (some (.ok (some m)), b.update link c)
    | .later time =>
      let isNext : Nat → Bool := fun t => deadline.all (t ≤ ·)
      match time.filter isNext, deadline with
      | none, none => (none, b.waitForever)
      | none, some time =>
        match b.waitUntil time with
        | (none, b) => (none, b)
        | (some (), b) => (some (.ok none), b)
      | some time, _ =>
        match b.waitUntil time with
        | (none, b) => (none, b)
        | (some (), b) =>
          match c.arrival b.clock with
          | .lost => (some (.error connectionReset), b)
          | .message m c => (some (.ok (some m)), b.update link c)
          | .later _ => (some (.ok none), b)

/-- Starts a task. -/
def start (b : Bench) : Task → Bench
  | .wait milliseconds => { b with taskEnd := b.clock + milliseconds }
  | .fetch url =>
    let fetch := b.fetches.headD unavailable
    { b.record (.fetch url) with
      fetches := b.fetches.tail
      fetch
      taskEnd := b.clock + fetch.delay }

/-- The result of a task that is over. -/
def finish (b : Bench) : (task : Task) → task.Result × Bench
  | .wait _ => ((), b)
  | .fetch _ =>
    let error := match b.fetch.result with
      | .error error => some error
      | .ok _ => none
    (b.fetch.result, b.record (.fetched error))

/-- Waits for the end of the running task, listening to a connection if there is one. -/
def turn (b : Bench) (task : Task) (listening : Option Link) : Option (Turn task.Result) × Bench :=
  let finished (b : Bench) : Option (Turn task.Result) × Bench :=
    let (result, b) := b.finish task
    (some (.over result), b)
  match listening with
  | none =>
    match b.waitUntil b.taskEnd with
    | (none, b) => (none, b)
    | (some (), b) => finished b
  | some link =>
    if b.taskEnd ≤ b.clock then finished b
    else
      match b.listen link (some b.taskEnd) with
      | (none, b) => (none, b)
      | (some (.error error), b) => (some (.lost error), b)
      | (some (.ok (some message)), b) => (some (.heard message), b)
      | (some (.ok none), b) => finished b

/-- Loads the stored credentials. -/
def load (b : Bench) : Except StoreError (Option Credentials) × Bench :=
  let isOk := !b.storeScript.failsLoad
  (if isOk then .ok b.stored else .error diskFailure, b.record (.load isOk))

/-- Stores credentials. A store that fails changes nothing. -/
def store (b : Bench) (credentials : Credentials) : Except StoreError Unit × Bench :=
  let isOk := b.stores ∉ b.storeScript.failedStores
  let b := { b.record (.store credentials isOk) with stores := b.stores + 1 }
  if isOk then (.ok (), { b with stored := some credentials }) else (.error diskFailure, b)

/-- Answers a call of a session. -/
def answer : Program.Surroundings World Bench
  | .now, b => (some b.clock, b)
  | .pause milliseconds, b => b.waitUntil (b.clock + milliseconds)
  | .connect login, b => b.connect login
  | .subscribe link topic, b =>
    b.onConnection link (·.subscribe b.clock topic) (.subscribe topic)
  | .unsubscribe link topic, b =>
    b.onConnection link (·.unsubscribe b.clock topic) (.unsubscribe topic)
  | .publish link topic payload, b =>
    b.onConnection link (·.publish b.clock ⟨topic, payload⟩) (.publish topic payload)
  | .receive link, b =>
    match b.listen link none with
    | (some (.ok (some message)), b) => (some (.ok message), b)
    | (some (.ok none), b) => (none, b)
    | (some (.error error), b) => (some (.error error), b)
    | (none, b) => (none, b)
  | .receiveBy link deadline, b => b.listen link (some deadline)
  | .close link, b => (some (), b.close link)
  | .start task, b => (some (), b.start task)
  | .turn task listening, b => b.turn task listening
  | .load, b =>
    let (result, b) := b.load
    (some result, b)
  | .store credentials, b =>
    let (result, b) := b.store credentials
    (some result, b)
  | .announce state, b => (some (), { b with state := some state })

/-- Drops a connection that was not closed. -/
def abandon (b : Bench) (link : Link) : Bench :=
  match b.connections[link]? with
  | none => b
  | some c =>
    if c.isClosed then b
    else
      { (b.update link { c with isClosed := true }).record .abandon with isOpen := b.isOpen - 1 }

/-- More turns than a loop takes on the bench: each consumes a message or an attempt. -/
def turns : Nat := Nat.pow 2 48

/-- Runs a program for at most `limit` milliseconds; a program that is given up leaves its
connections unclosed. -/
def rehearse {α : Type} (b : Bench) (limit : Nat) (program : Program World α) : Option α × Bench :=
  match program.run answer turns { b with limit := b.clock + limit } with
  | (some a, b) => (some a, b)
  | (none, b) => (none, (List.range b.connections.length).foldl abandon b)

end Bench

end UpdateAgent
