import UpdateAgent.Agent.Basic
import UpdateAgent.Url.Image

/-!
# The machine without a network

A platform on which every connection fails: files are kept in a tree, the clock is virtual, and the
system bus behaves as a script says.
-/

namespace UpdateAgent

namespace Offline

/-- How the system bus behaves. -/
inductive BusScript
  /-- There is no bus. -/
  | absent
  /-- Every call is answered. -/
  | answers
  /-- Every call but the first is answered with this error. -/
  | refuses (name text : String)
  /-- The first call is answered with an error. -/
  | refusesHello
  /-- The connection ends at the second call. -/
  | hangsUp
  /-- No connection is made, for this reason. -/
  | fails (text : String)

/-- What a connection to the bus comes to. -/
def BusScript.connect : BusScript → Except RestartError Unit
  | absent => .error .unavailable
  | fails text => .error (.failed text)
  | _ => .ok ()

/-- What a call on the bus comes to. -/
def BusScript.call (script : BusScript) (call : BusCall) : Except RestartError Unit :=
  if call = .hello then
    match script with
    | refusesHello => .error (.refused "org.freedesktop.DBus.Error.LimitsExceeded" "full")
    | _ => .ok ()
  else
    match script with
    | refuses name text => .error (.refused name text)
    | hangsUp => .error .unavailable
    | _ => .ok ()

/-- The machine: its clock and the time at which it is switched off, its files, the bus and the
calls made on it. -/
structure Computer where
  clock : Nat := 0
  limit : Option Nat := none
  tree : Tree := {}
  bus : BusScript := .absent
  opened : Nat := 0
  calls : List BusCall := []

namespace Computer

/-- Waits. -/
def wait (m : Computer) (milliseconds : Nat) : Option Unit × Computer :=
  let clock := m.clock + milliseconds
  if m.limit.all (clock ≤ ·) then (some (), { m with clock }) else (none, m)

/-- Answers what a restart asks for. -/
def answerRestart : Program.Surroundings Restarting Computer
  | .pause milliseconds, m => m.wait milliseconds
  | .openBus, m => (some m.bus.connect, { m with opened := m.opened + 1 })
  | .bus call, m => (some (m.bus.call call), { m with calls := m.calls ++ [call] })

/-- Where there is no connection, none can be used. -/
def noConnection : BusError := .connectionLost "not connected"

/-- How a task ends. -/
def finish : (task : Task) → task.Result
  | .fetch url => .error (ImageAddress.failure url)
  | .wait _ => ()

/-- How long a task takes. -/
def duration : Task → Nat
  | .fetch _ => 0
  | .wait milliseconds => milliseconds

/-- Answers what a session asks for. -/
def answerSession : Program.Surroundings World Computer
  | .now, m => (some m.clock, m)
  | .pause milliseconds, m => m.wait milliseconds
  | .connect _, m => (some (.error (.connect "connection refused")), m)
  | .subscribe .., m => (some (.error noConnection), m)
  | .unsubscribe .., m => (some (.error noConnection), m)
  | .publish .., m => (some (.error noConnection), m)
  | .receive _, m => (some (.error noConnection), m)
  | .receiveBy .., m => (some (.error noConnection), m)
  | .close _, m => (some (), m)
  | .start _, m => (some (), m)
  | .turn task _, m =>
    match m.wait (duration task) with
    | (none, m) => (none, m)
    | (some (), m) => (some (.over (finish task)), m)
  | .load, m => (some (.ok none), m)
  | .store _, m => (some (.ok ()), m)
  | .announce _, m => (some (), m)

/-- Answers what the agent asks for. -/
def answer : Program.Surroundings Platform Computer
  | .session call, m => answerSession call m
  | .file call, m =>
    let (reply, tree) := Disk.answer none call m.tree
    (some reply, { m with tree })
  | .restart call, m => answerRestart call m

/-- Runs a program of the agent. -/
def run {α : Type} (m : Computer) (program : Program Platform α) : Option α × Computer :=
  program.run answer Disk.turns m

/-- Runs a restart. -/
def runRestart {α : Type} (m : Computer) (program : Program Restarting α) : Option α × Computer :=
  program.run answerRestart Disk.turns m

end Computer

end Offline

end UpdateAgent
