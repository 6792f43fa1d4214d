import UpdateAgent.Session.World

/-!
# Sessions

A session is a program that also drives a provisioning machine. Whenever the machine moves, its
watchers are told before the session goes on.
-/

namespace UpdateAgent

/-- A program that drives a machine. -/
abbrev Session (α : Type) := StateT Machine (Program World) α

namespace Session

/-- Tells the machine of an event. -/
def handle (event : Machine.Event) : Session Machine.Transition := do
  let (transition, machine) := (← get).handle event
  set machine
  match transition with
  | .moved _ target => World.announce target
  | .ignored .. => pure ()
  return transition

/-- Repeats `body` until it finishes; the machine goes from turn to turn. -/
def iterate {σ β : Type} (s : σ) (body : σ → Session (Next σ β)) : Session β := fun machine =>
  Program.iterate (s, machine) fun (s, machine) => do
    match ← (body s).run machine with
    | (.again s, machine) => pure (.again (s, machine))
    | (.finish b, machine) => pure (.finish (b, machine))

end Session

end UpdateAgent
