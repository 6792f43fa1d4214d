import UpdateAgent.Session.World
import UpdateAgent.Json.Value

/-!
# The in-memory broker

A broker for one client. What is published comes back to a client that is subscribed to the topic,
retained messages come on subscribing, and rules may answer a publish. All connections share the one
state of the broker: opening a connection clears subscriptions, undelivered messages and the loss of
the connection before it.
-/

namespace UpdateAgent.Loopback

/-- The answer to publishes on a topic. -/
structure Rule where
  /-- The topic whose publishes are answered. -/
  on : String
  /-- Answers only from the publish of this number on. -/
  earliest : Option Nat := none
  /-- Answers only the publish of this number. -/
  only : Option Nat := none
  answer : Message

/-- The rule answers the publish of number `count` on its topic, counted from one. -/
def Rule.applies (rule : Rule) (topic : String) (count : Nat) : Bool :=
  rule.on == topic && rule.earliest.all (· ≤ count) && rule.only.all (· == count)

/-- The state of the broker. -/
structure Broker where
  isOpen : Nat := 0
  mostOpen : Nat := 0
  logins : List Login := []
  released : List Link := []
  subscriptions : List String := []
  unsubscriptions : List String := []
  published : List Message := []
  retained : List Message := []
  inbound : List Message := []
  failingConnects : Nat := 0
  denied : List String := []
  isLost : Bool := false
  rules : List Rule := []

namespace Broker

/-- What a lost or closed connection answers. -/
def connectionReset : BusError := .connectionLost "connection reset"

/-- Opens a connection. -/
def connect (b : Broker) (login : Login) : Except BusError Link × Broker :=
  if b.failingConnects > 0 then
    (.error (.connect "connection refused"), { b with failingConnects := b.failingConnects - 1 })
  else
    (.ok b.logins.length, { b with
      isOpen := b.isOpen + 1
      mostOpen := max b.mostOpen (b.isOpen + 1)
      logins := b.logins ++ [login]
      subscriptions := []
      inbound := []
      isLost := false })

/-- Calls on a connection fail. -/
def isDead (b : Broker) (link : Link) : Bool :=
  b.isLost || b.released.contains link

/-- Subscribes to a topic. -/
def subscribe (b : Broker) (link : Link) (topic : String) : Except BusError Unit × Broker :=
  if b.isDead link then (.error connectionReset, b)
  else if topic ∈ b.denied then (.error (.refused topic), b)
  else
    (.ok (), { b with
      subscriptions := b.subscriptions ++ [topic]
      inbound := b.inbound ++ b.retained.filter (·.topic = topic) })

/-- Gives up the subscription to a topic. -/
def unsubscribe (b : Broker) (link : Link) (topic : String) : Except BusError Unit × Broker :=
  if b.isDead link then (.error connectionReset, b)
  else
    (.ok (), { b with
      subscriptions := b.subscriptions.filter (· ≠ topic)
      unsubscriptions := b.unsubscriptions ++ [topic] })

/-- The messages published on a topic. -/
def publishedOn (b : Broker) (topic : String) : List Message :=
  b.published.filter (·.topic = topic)

/-- Publishes a message. -/
def publish (b : Broker) (link : Link) (message : Message) : Except BusError Unit × Broker :=
  if b.isDead link then (.error connectionReset, b)
  else
    let topic := message.topic
    let b := { b with published := b.published ++ [message] }
    let echo := if topic ∈ b.subscriptions then [message] else []
    let count := (b.publishedOn topic).length
    let answers := (b.rules.filter (·.applies topic count)).map (·.answer)
    (.ok (), { b with inbound := b.inbound ++ echo ++ answers })

/-- The next message, if there is one already. -/
def next (b : Broker) (link : Link) : Except BusError (Option Message) × Broker :=
  if b.isDead link then (.error connectionReset, b)
  else
    match b.inbound with
    | [] => (.ok none, b)
    | message :: rest => (.ok (some message), { b with inbound := rest })

/-- Closes a connection, which may have been closed before. -/
def release (b : Broker) (link : Link) : Broker :=
  if b.released.contains link || b.logins.length ≤ link then b
  else { b with released := link :: b.released, isOpen := b.isOpen - 1 }

/-- Closes every connection. -/
def releaseAll (b : Broker) : Broker :=
  (List.range b.logins.length).foldl release b

/-- The connection is lost. -/
def lose (b : Broker) : Broker :=
  { b with isLost := true }

/-- Keeps a message for those who subscribe to its topic later. -/
def retain (b : Broker) (message : Message) : Broker :=
  { b with retained := b.retained ++ [message] }

/-- Refuses subscriptions to a topic. -/
def deny (b : Broker) (topic : String) : Broker :=
  { b with denied := b.denied ++ [topic] }

/-- The status that a published report carries. -/
def status? (message : Message) : Option String := do
  let document ← Json.Value.read? message.payload
  let payload ← document.get? "payload"
  match payload.get? "status" with
  | some (.text status) => some status
  | _ => none

/-- The statuses reported on a topic, if every message on it is a report. -/
def statuses? (b : Broker) (topic : String) : Option (List String) :=
  (b.publishedOn topic).mapM status?

end Broker

end UpdateAgent.Loopback
