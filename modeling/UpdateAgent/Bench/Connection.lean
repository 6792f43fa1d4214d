import UpdateAgent.Bench.Script

/-!
# Connections on the bench

A connection is its script and what has happened on it so far. Messages wait in the order of the
time at which they are due, those of one time in the order in which they were queued.
-/

namespace UpdateAgent.Bench

/-- A message that is due at some time. -/
structure Pending where
  due : Nat
  message : Message

/-- A connection under way. -/
structure Connection where
  script : ConnectionScript
  queue : List Pending := []
  subscriptions : List String := []
  subscribes : Nat := 0
  publishes : Nat := 0
  lostFrom : Option Nat := none
  isClosed : Bool := false

namespace Connection

/-- Queues a message behind those that are due no later. -/
def insert (pending : Pending) : List Pending → List Pending
  | [] => [pending]
  | p :: rest => if p.due ≤ pending.due then p :: insert pending rest else pending :: p :: rest

/-- Queues what a delivery brings, counted from the time `now`. -/
def deliver (now : Nat) (c : Connection) (d : Delivery) : Connection :=
  { c with queue := insert ⟨now + d.after, d.message⟩ c.queue }

/-- The connection that a script describes, open from the time `now` on. -/
def opened (script : ConnectionScript) (now : Nat) : Connection :=
  let c : Connection := { script, lostFrom := script.dropAfter.map (now + ·) }
  script.inbound.foldl (deliver now) c

/-- The connection is lost at the time `now`. -/
def isLost (c : Connection) (now : Nat) : Bool :=
  match c.lostFrom with
  | some time => time ≤ now
  | none => false

/-- Calls on the connection fail at the time `now`. -/
def isDead (c : Connection) (now : Nat) : Bool :=
  c.isClosed || c.isLost now

/-- The connection is lost from the time `now` on. -/
def drop (c : Connection) (now : Nat) : Connection :=
  { c with lostFrom := some (match c.lostFrom with
      | some time => min time now
      | none => now) }

/-- Subscribes to a topic. -/
def subscribe (c : Connection) (now : Nat) (topic : String) : Except BusError Unit × Connection :=
  if c.isDead now then (.error connectionReset, c)
  else
    let n := c.subscribes
    let c := { c with subscribes := n + 1 }
    if topic ∈ c.script.denied then (.error (.refused topic), c)
    else
      let c := { c with subscriptions := topic :: c.subscriptions }
      let c := (c.script.retained.filter (·.message.topic = topic)).foldl (deliver now) c
      (.ok (), if c.script.dropOnSubscribe == some n then c.drop now else c)

/-- Gives up the subscription to a topic. -/
def unsubscribe (c : Connection) (now : Nat) (topic : String) :
    Except BusError Unit × Connection :=
  if c.isDead now then (.error connectionReset, c)
  else if c.script.failsUnsubscribe then (.error queueFull, c)
  else (.ok (), { c with subscriptions := c.subscriptions.filter (· ≠ topic) })

/-- Publishes a message. -/
def publish (c : Connection) (now : Nat) (message : Message) : Except BusError Unit × Connection :=
  if c.isDead now then (.error connectionReset, c)
  else
    let n := c.publishes
    let c := { c with publishes := n + 1 }
    if n ∈ c.script.failedPublishes then (.error queueFull, c)
    else
      let c := if c.script.echo ∧ message.topic ∈ c.subscriptions then deliver now c { message }
        else c
      let answers := (c.script.onPublish.filter (·.1 = n)).map (·.2)
      let c := answers.foldl (deliver now) c
      (.ok (), if c.script.dropOnPublish == some n then c.drop now else c)

/-- What a connection has for its reader at some time. -/
inductive Arrival
  | lost
  | message (message : Message) (rest : Connection)
  | later (time : Option Nat)

/-- What there is to read at the time `now`: a loss comes before a message of the same time. If
there is nothing yet, the time at which there will be. -/
def arrival (c : Connection) (now : Nat) : Arrival :=
  if c.isDead now then .lost
  else
    match c.queue with
    | [] => .later c.lostFrom
    | p :: rest =>
      if p.due ≤ now then .message p.message { c with queue := rest }
      else .later (some (match c.lostFrom with
        | some time => min time p.due
        | none => p.due))

end Connection

end UpdateAgent.Bench
