import UpdateAgent.Bench.Basic
import UpdateAgent.Session.Cycle

/-!
# Rehearsals

Runs of whole sessions on the bench. A session that is given up has no result; its machine stays in
the state that its watchers were last told of.
-/

namespace UpdateAgent.Bench

/-- Shows a machine to the log. -/
def watch (b : Bench) (machine : Machine) : Bench :=
  { b with state := some machine.state }

/-- Runs a session once, for at most `limit` milliseconds. -/
def runOnce {α : Type} (limit : Nat) (session : Session α) (machine : Machine) (b : Bench) :
    Option α × Machine × Bench :=
  match (b.watch machine).rehearse limit (session.run machine) with
  | (some (a, machine), b) => (some a, machine, b)
  | (none, b) => (none, { machine with state := b.state.getD machine.state }, b)

/-- Runs a session several times on one machine. -/
def runMany {α : Type} (limit : Nat) (session : Session α) :
    Nat → Machine → Bench → List (Option α) × Machine × Bench
  | 0, machine, b => ([], machine, b)
  | runs + 1, machine, b =>
    let (result, machine, b) := runOnce limit session machine b
    let (results, machine, b) := runMany limit session runs machine b
    (result :: results, machine, b)

/-- What happened between two restarts of a device: the state that it booted in, how each run of its
cycle ended, and the state after them. -/
structure Boot where
  initial : Machine.State
  results : List (Option CycleOutcome)
  final : Machine.State

/-- Runs a cycle once. Its credentials are used up even if it is given up. -/
def runCycle (config : CycleConfig) (limit : Nat) (cycle : Cycle) (b : Bench) :
    Option CycleOutcome × Cycle × Bench :=
  match (b.watch cycle.machine).rehearse limit (cycle.run config) with
  | (some (outcome, cycle), b) => (some outcome, cycle, b)
  | (none, b) =>
    let machine := { cycle.machine with state := b.state.getD cycle.machine.state }
    (none, { credentials := none, machine }, b)

/-- Runs a cycle several times. -/
def runCycles (config : CycleConfig) (limit : Nat) :
    Nat → Cycle → Bench → List (Option CycleOutcome) × Cycle × Bench
  | 0, cycle, b => ([], cycle, b)
  | runs + 1, cycle, b =>
    let (result, cycle, b) := runCycle config limit cycle b
    let (results, cycle, b) := runCycles config limit runs cycle b
    (result :: results, cycle, b)

/-- Boots a device once: loads its credentials and runs its cycle. -/
def bootOnce (config : CycleConfig) (limit runs : Nat) (b : Bench) : Option Boot × Bench :=
  match b.rehearse limit (Cycle.load config) with
  | (none, b) => (none, b)
  | (some cycle, b) =>
    let (results, last, b) := runCycles config limit runs cycle (b.watch cycle.machine)
    (some { initial := cycle.machine.state, results, final := last.machine.state }, b)

/-- Boots a device several times on the same collaborators. -/
def bootMany (config : CycleConfig) (limit runs : Nat) : Nat → Bench → List (Option Boot) × Bench
  | 0, b => ([], b)
  | boots + 1, b =>
    let (boot, b) := bootOnce config limit runs b
    let (rest, b) := bootMany config limit runs boots b
    (boot :: rest, b)

/-- Hands a payload from the registration topic to a machine that may await it. -/
def offer (payload : Bytes) (machine : Machine) (b : Bench) :
    Option (Except StoreError (Option Credentials)) × Bench :=
  (b.watch machine).rehearse 0 (Registration.acceptReply machine.state payload)

end UpdateAgent.Bench
