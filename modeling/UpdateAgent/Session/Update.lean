import UpdateAgent.Session.Basic
import UpdateAgent.Message.Topic
import UpdateAgent.Message.Inbound
import UpdateAgent.Message.Outbound

/-!
# Updates

A registered device waits for an update trigger on its own topic and supervises the download of the
image that it names. The download goes on whatever happens on the bus: messages are drained
meanwhile, a lost connection ends the draining only, and a report that cannot be published is
dropped.
-/

namespace UpdateAgent.Update

/-- How downloads are attempted. -/
structure Config where
  retry : RetryPolicy := {}

/-- How an update ended. -/
inductive Outcome
  | updated (image : Image)
  | failed (attempts : UInt32) (error : FetchError)
  deriving DecidableEq

/-- Why no update took place. -/
inductive Error
  | invalidState (state : Machine.State)
  | budgetMismatch (policy machine : UInt32)
  | bus (error : BusError)
  deriving DecidableEq

/-- The error as it is shown. -/
def Error.message : Error → String
  | invalidState state => "update session cannot run while " ++ state.text
  | budgetMismatch policy machine =>
    "retry policy allows " ++ toString policy.toNat ++ " attempts but the state machine allows "
      ++ toString machine.toNat
  | bus error => error.message

/-- Publishes a status report, if the bus takes it. -/
def report (deviceId : String) (link : Link) (report : StatusReport) : Program World Unit :=
  discard (World.publish link (Topic.status deviceId) report.message.bytes)

/-- Waits for the next thing that happens while a task goes on. Triggers that are heard go through
the machine. -/
def drainTurn (deviceId : String) (link : Link) (task : Task) (isAlive : Bool) :
    Session (Next Bool (task.Result × Bool)) := do
  match ← World.turn task (if isAlive then some link else none) with
  | .over result => return .finish (result, isAlive)
  | .lost _ => return .again false
  | .heard message =>
    if message.topic = Topic.update deviceId then
      if let .ok _ := UpdateTrigger.decode message.payload then
        discard (Session.handle .triggerAccepted)
    return .again isAlive

/-- Does a task to its end while messages are drained, as long as the connection `isAlive`. Tells
the result and whether the connection still is. -/
def drain (deviceId : String) (link : Link) (isAlive : Bool) (task : Task) :
    Session (task.Result × Bool) := do
  World.start task
  Session.iterate isAlive (drainTurn deviceId link task)

/-- One download attempt, followed by a pause if there is another. The failure of the last one is
reported. -/
def superviseTurn (deviceId : String) (config : Config) (link : Link) (url : String)
    (isAlive : Bool) : Session (Next Bool Outcome) := do
  let attempt := (← get).state.attempt?.getD 0 + 1
  let (result, isAlive) ← drain deviceId link isAlive (.fetch url)
  match result with
  | .ok image =>
    discard (Session.handle .fetchSucceeded)
    report deviceId link (.downloaded url)
    report deviceId link (.succeeded url)
    return .finish (.updated image)
  | .error error =>
    discard (Session.handle .fetchFailed)
    if (← get).state = .failed then
      report deviceId link (.failed url error.message)
      return .finish (.failed attempt error)
    let ((), isAlive) ← drain deviceId link isAlive (.wait config.retry.interval)
    return .again isAlive

/-- Fetches the image until it succeeds or the machine gives up. -/
def supervise (deviceId : String) (config : Config) (link : Link) (url : String) :
    Session Outcome :=
  Session.iterate true (superviseTurn deviceId config link url)

/-- Takes a message: a trigger that the machine accepts starts the update. -/
def takeMessage (deviceId : String) (config : Config) (link : Link) (message : Message) :
    Session (Option Outcome) := do
  if message.topic ≠ Topic.update deviceId then return none
  match UpdateTrigger.decode message.payload with
  | .error _ => return none
  | .ok url =>
    if (← Session.handle .triggerAccepted).isIgnored then return none
    report deviceId link (.received url)
    return some (← supervise deviceId config link url)

/-- Looks at the next message. -/
def serveTurn (deviceId : String) (config : Config) (link : Link) :
    Session (Next Unit (Except Error Outcome)) := do
  match ← World.receive link with
  | .error error => return .finish (.error (.bus error))
  | .ok message =>
    match ← takeMessage deviceId config link message with
    | some outcome => return .finish (.ok outcome)
    | none => return .again ()

/-- Subscribes to the topics of the device and waits for a trigger on an open connection. -/
def serve (deviceId : String) (config : Config) (link : Link) :
    Session (Except Error Outcome) := do
  match ← World.subscribe link (Topic.status deviceId) with
  | .error error => return .error (.bus error)
  | .ok () =>
    match ← World.subscribe link (Topic.update deviceId) with
    | .error error => return .error (.bus error)
    | .ok () =>
      discard (Session.handle .subscribed)
      Session.iterate () fun _ => serveTurn deviceId config link

/-- Waits for an update and applies it. The session runs only while the device is registered, and
only if its policy allows the attempts that the machine counts. It is a new session, as every cycle
makes one of its own: a session reports a failure only once, so one that has done so in an earlier
run would keep silent about the next. -/
def run (credentials : Credentials) (config : Config) : Session (Except Error Outcome) := do
  let machine ← get
  if machine.state ≠ .registered then return .error (.invalidState machine.state)
  if config.retry.attempts ≠ machine.budget then
    return .error (.budgetMismatch config.retry.attempts machine.budget)
  match ← World.connect (.ofCredentials credentials) with
  | .error error => return .error (.bus error)
  | .ok link =>
    let result ← serve credentials.deviceId config link
    World.close link
    return result

end UpdateAgent.Update
