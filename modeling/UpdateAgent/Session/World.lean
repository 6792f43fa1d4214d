import UpdateAgent.Program
import UpdateAgent.Machine
import UpdateAgent.Device
import UpdateAgent.Fetch
import UpdateAgent.Store.Error

/-!
# The surroundings of a session

Sessions talk to a broker, a downloader, the credential store and the clock. Every one of these is a
call of the interface `World`, so a session is a program that can be run against any of them, and
what it did is the list of its calls.
-/

namespace UpdateAgent

/-- A message on the bus. -/
structure Message where
  topic : String
  payload : Bytes
  deriving DecidableEq

/-- Why the bus did not do what it was asked. -/
inductive BusError
  | connect (text : String)
  | connectionLost (text : String)
  | request (text : String)
  deriving DecidableEq

/-- The error as it is shown. -/
def BusError.message : BusError → String
  | connect text => "failed to connect to broker: " ++ text
  | connectionLost text => "broker connection lost: " ++ text
  | request text => "broker request failed: " ++ text

/-- A broker refuses a subscription. -/
def BusError.refused (topic : String) : BusError :=
  .request ("subscription to " ++ topic ++ " refused by the broker")

/-- An open connection. -/
abbrev Link := Nat

/-- What goes on while messages are drained. -/
inductive Task
  | fetch (url : String)
  | wait (milliseconds : Nat)
  deriving DecidableEq

/-- What a task comes to. -/
abbrev Task.Result : Task → Type
  | fetch _ => Except FetchError Image
  | wait _ => Unit

/-- What happens next while a task goes on. -/
inductive Turn (α : Type)
  | over (result : α)
  | heard (message : Message)
  | lost (error : BusError)

/-- What a session can ask for. Times are in milliseconds. -/
inductive WorldCall
  | now
  | pause (milliseconds : Nat)
  | connect (login : Login)
  | subscribe (link : Link) (topic : String)
  | unsubscribe (link : Link) (topic : String)
  | publish (link : Link) (topic : String) (payload : Bytes)
  | receive (link : Link)
  | receiveBy (link : Link) (deadline : Nat)
  | close (link : Link)
  | start (task : Task)
  | turn (task : Task) (listening : Option Link)
  | load
  | store (credentials : Credentials)
  | announce (state : Machine.State)

/-- The reply to each call. A message that is awaited until a deadline may not come. -/
abbrev WorldReply : WorldCall → Type
  | .now => Nat
  | .pause _ => Unit
  | .connect _ => Except BusError Link
  | .subscribe .. => Except BusError Unit
  | .unsubscribe .. => Except BusError Unit
  | .publish .. => Except BusError Unit
  | .receive _ => Except BusError Message
  | .receiveBy .. => Except BusError (Option Message)
  | .close _ => Unit
  | .start _ => Unit
  | .turn task _ => Turn task.Result
  | .load => Except StoreError (Option Credentials)
  | .store _ => Except StoreError Unit
  | .announce _ => Unit

/-- The surroundings of a session. -/
abbrev World : Interface where
  Call := WorldCall
  Reply := WorldReply

namespace World

/-- The time. -/
def now : Program World Nat :=
  .request World .now

/-- Waits. -/
def pause (milliseconds : Nat) : Program World Unit :=
  .request World (.pause milliseconds)

/-- Opens a connection. -/
def connect (login : Login) : Program World (Except BusError Link) :=
  .request World (.connect login)

/-- Subscribes to a topic; the reply comes once the broker has accepted it. -/
def subscribe (link : Link) (topic : String) : Program World (Except BusError Unit) :=
  .request World (.subscribe link topic)

/-- Gives up a subscription. -/
def unsubscribe (link : Link) (topic : String) : Program World (Except BusError Unit) :=
  .request World (.unsubscribe link topic)

/-- Publishes a message. -/
def publish (link : Link) (topic : String) (payload : Bytes) :
    Program World (Except BusError Unit) :=
  .request World (.publish link topic payload)

/-- Waits for the next message. -/
def receive (link : Link) : Program World (Except BusError Message) :=
  .request World (.receive link)

/-- Waits for the next message, at most until a deadline. -/
def receiveBy (link : Link) (deadline : Nat) : Program World (Except BusError (Option Message)) :=
  .request World (.receiveBy link deadline)

/-- Closes a connection. -/
def close (link : Link) : Program World Unit :=
  .request World (.close link)

/-- Starts a task. -/
def start (task : Task) : Program World Unit :=
  .request World (.start task)

/-- Waits until a task is over or, if a connection is listened to, something happens on it. -/
def turn (task : Task) (listening : Option Link) : Program World (Turn task.Result) :=
  .request World (.turn task listening)

/-- The stored credentials. -/
def load : Program World (Except StoreError (Option Credentials)) :=
  .request World .load

/-- Replaces the stored credentials. -/
def store (credentials : Credentials) : Program World (Except StoreError Unit) :=
  .request World (.store credentials)

/-- Tells watchers of the provisioning machine its new state. -/
def announce (state : Machine.State) : Program World Unit :=
  .request World (.announce state)

end World

end UpdateAgent
