import UpdateAgent.Program
import UpdateAgent.Command.Setting

/-!
# Restarting

Once a cycle has ended the device restarts, after a grace period: either the login manager is asked
to reboot the host, or the agent ends and the service manager starts it again.
-/

namespace UpdateAgent

/-- A method call on the system bus. -/
structure BusCall where
  destination : String
  path : String
  interface : String
  member : String
  argument : Option Bool := none
  deriving DecidableEq

namespace BusCall

/-- The first call on a connection. -/
def hello : BusCall where
  destination := "org.freedesktop.DBus"
  path := "/org/freedesktop/DBus"
  interface := "org.freedesktop.DBus"
  member := "Hello"

/-- Asks the login manager to reboot the host, without asking the user. -/
def reboot : BusCall where
  destination := "org.freedesktop.login1"
  path := "/org/freedesktop/login1"
  interface := "org.freedesktop.login1.Manager"
  member := "Reboot"
  argument := some false

end BusCall

/-- Why the host did not restart. -/
inductive RestartError
  | refused (name text : String)
  | failed (text : String)
  | unavailable
  deriving DecidableEq

/-- The error as it is shown. -/
def RestartError.message (error : RestartError) : String :=
  "restart failed: D-Bus error: " ++ match error with
    | refused name text => name ++ ": " ++ text
    | failed text => text
    | unavailable => "the system bus is not available"

/-- What restarting asks of the machine. Times are in milliseconds. -/
inductive RestartCall
  | pause (milliseconds : Nat)
  | openBus
  | bus (call : BusCall)
  deriving DecidableEq

/-- The reply to each call. -/
abbrev RestartReply : RestartCall → Type
  | .pause _ => Unit
  | .openBus => Except RestartError Unit
  | .bus _ => Except RestartError Unit

/-- The surroundings of a restart. -/
abbrev Restarting : Interface where
  Call := RestartCall
  Reply := RestartReply

namespace Restart

/-- Reboots the host through the login manager. -/
def reboot : Program Restarting (Except RestartError Unit) := do
  match ← Program.request Restarting .openBus with
  | .error error => return .error error
  | .ok () =>
    match ← Program.request Restarting (.bus .hello) with
    | .error error => return .error error
    | .ok () => Program.request Restarting (.bus .reboot)

/-- Restarts in a mode. Ending the agent asks nothing of the host. -/
def now : RestartMode → Program Restarting (Except RestartError Unit)
  | .reboot => reboot
  | .exit => return .ok ()

/-- Restarts after a grace period. -/
def after (delay : Nat) (mode : RestartMode) : Program Restarting (Except RestartError Unit) := do
  Program.request Restarting (.pause delay)
  now mode

end Restart

end UpdateAgent
