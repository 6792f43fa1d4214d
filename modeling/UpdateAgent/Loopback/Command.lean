import UpdateAgent.Loopback.Broker

/-!
# Commands to the in-memory broker

Commands that work the broker by hand: some go to the broker itself, the others to the connection
that is in use. A connection that was dropped can no longer be used.
-/

namespace UpdateAgent.Loopback

/-- A command to the broker or to the connection in use. -/
inductive Command
  | connect (login : Login)
  | use (link : Link)
  | subscribe (topic : String)
  | unsubscribe (topic : String)
  | publish (message : Message)
  | next
  | close
  | drop
  | retain (message : Message)
  | deny (topic : String)
  | failConnects (count : Nat)
  | lose
  | statuses (topic : String)

/-- What a command comes to. -/
inductive Result
  | done
  | failed (error : BusError)
  | message (message : Message)
  | pending
  | notConnected
  | statuses (statuses : List String)

/-- The broker, the connection in use, the connections that were dropped, and the topics that were
published on, whether or not the broker took the message. -/
structure Console where
  broker : Broker := {}
  link : Option Link := none
  dropped : List Link := []
  topics : List String := []

namespace Console

/-- Makes a call on the connection in use. -/
def onLink (c : Console) (call : Link → Result × Broker) : Result × Console :=
  match c.link with
  | none => (.notConnected, c)
  | some link =>
    if c.dropped.contains link || c.broker.logins.length ≤ link then (.notConnected, c)
    else
      let (result, broker) := call link
      (result, { c with broker })

/-- What a call that has no answer comes to. -/
def ofUnit : Except BusError Unit → Result
  | .ok () => .done
  | .error error => .failed error

/-- Carries out a command. There is no result if statuses are asked for where something else than
reports was published. -/
def run (c : Console) : Command → Option (Result × Console)
  | .connect login =>
    match c.broker.connect login with
    | (.ok link, broker) => some (.done, { c with broker, link := some link })
    | (.error error, broker) => some (.failed error, { c with broker })
  | .use link => some (.done, { c with link := some link })
  | .subscribe topic => some <| c.onLink fun link =>
    let (result, broker) := c.broker.subscribe link topic
    (ofUnit result, broker)
  | .unsubscribe topic => some <| c.onLink fun link =>
    let (result, broker) := c.broker.unsubscribe link topic
    (ofUnit result, broker)
  | .publish message =>
    match c.onLink fun link =>
      let (result, broker) := c.broker.publish link message
      (ofUnit result, broker) with
    | (.notConnected, c) => some (.notConnected, c)
    | (result, c) => some (result, { c with topics := message.topic :: c.topics })
  | .next => some <| c.onLink fun link =>
    match c.broker.next link with
    | (.error error, broker) => (.failed error, broker)
    | (.ok none, broker) => (.pending, broker)
    | (.ok (some message), broker) => (.message message, broker)
  | .close => some <| c.onLink fun link => (.done, c.broker.release link)
  | .drop =>
    match c.onLink fun link => (.done, c.broker.release link) with
    | (.done, after) => some (.done, { after with dropped := c.link.toList ++ c.dropped })
    | other => some other
  | .retain message => some (.done, { c with broker := c.broker.retain message })
  | .deny topic => some (.done, { c with broker := c.broker.deny topic })
  | .failConnects count =>
    some (.done, { c with broker := { c.broker with failingConnects := count } })
  | .lose => some (.done, { c with broker := c.broker.lose })
  | .statuses topic => (c.broker.statuses? topic).map fun statuses => (.statuses statuses, c)

end Console

end UpdateAgent.Loopback
