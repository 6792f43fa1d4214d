/-!
# Programs

A program does its work by calls to its surroundings: it makes a call, goes on with the reply, and
may repeat a part of itself. It says nothing about what the replies are, so one program runs in any
surroundings: `Program.run` runs it where every reply is computed, and `Program.Runs` relates it to
every sequence of calls and replies after which it has a result.
-/

namespace UpdateAgent

/-- The calls that a program can make, and what the reply to each can be. -/
structure Interface where
  Call : Type
  Reply : Call → Type

/-- What a turn of a loop leads to. -/
inductive Next (σ β : Type)
  | again (s : σ)
  | finish (b : β)

/-- A program with a result of type `α`. -/
inductive Program (I : Interface) : Type → Type 1
  | done {α : Type} (a : α) : Program I α
  | call {α : Type} (c : I.Call) (k : I.Reply c → Program I α) : Program I α
  | loop {α σ β : Type} (body : σ → Program I (Next σ β)) (s : σ) (k : β → Program I α) :
      Program I α

namespace Program

variable {I : Interface}

/-- Goes on with the result of a program. -/
protected def bind {α β : Type} (p : Program I α) (f : α → Program I β) : Program I β :=
  match p with
  | done a => f a
  | call c k => call c fun r => (k r).bind f
  | loop body s k => loop body s fun b => (k b).bind f

instance : Monad (Program I) where
  pure := done
  bind := Program.bind

/-- Makes one call of the interface. -/
def request (I : Interface) (c : I.Call) : Program I (I.Reply c) :=
  call c done

/-- Repeats `body`, which hands its state on, until it finishes. -/
def iterate {σ β : Type} (s : σ) (body : σ → Program I (Next σ β)) : Program I β :=
  loop body s done

/-- Carries out each call of a program by a program of another interface. -/
def through {J : Interface} (carryOut : (c : I.Call) → Program J (I.Reply c)) :
    {α : Type} → Program I α → Program J α
  | _, done a => done a
  | _, call c k => (carryOut c).bind fun r => (k r).through carryOut
  | _, loop body s k =>
    loop (fun s => (body s).through carryOut) s fun b => (k b).through carryOut

/-- A call with the reply that it got. -/
structure Exchange (I : Interface) where
  call : I.Call
  reply : I.Reply call

/-- The program makes exactly these calls, gets these replies, and then has this result. -/
inductive Runs : {α : Type} → Program I α → List (Exchange I) → α → Prop
  | done {α : Type} (a : α) : Runs (.done a) [] a
  | call {α : Type} {c : I.Call} {k : I.Reply c → Program I α} (r : I.Reply c)
      {trace : List (Exchange I)} {a : α} (rest : Runs (k r) trace a) :
      Runs (.call c k) (⟨c, r⟩ :: trace) a
  | again {α σ β : Type} {body : σ → Program I (Next σ β)} {s s' : σ} {k : β → Program I α}
      {turn trace : List (Exchange I)} {a : α} (this : Runs (body s) turn (.again s'))
      (rest : Runs (.loop body s' k) trace a) : Runs (.loop body s k) (turn ++ trace) a
  | finish {α σ β : Type} {body : σ → Program I (Next σ β)} {s : σ} {b : β}
      {k : β → Program I α} {turn trace : List (Exchange I)} {a : α}
      (this : Runs (body s) turn (.finish b)) (rest : Runs (k b) trace a) :
      Runs (.loop body s k) (turn ++ trace) a

/-- Surroundings with a state: they answer a call, or never do. -/
abbrev Surroundings (I : Interface) (ω : Type) :=
  (c : I.Call) → ω → Option (I.Reply c) × ω

/-- Repeats `body` until it finishes, at most `turns` times. -/
def repeated {ω σ β : Type} (body : σ → ω → Option (Next σ β) × ω) :
    Nat → σ → ω → Option β × ω
  | 0, _, w => (none, w)
  | turns + 1, s, w =>
    match body s w with
    | (none, w) => (none, w)
    | (some (.finish b), w) => (some b, w)
    | (some (.again s), w) => repeated body turns s w

/-- Runs a program in its surroundings, each of its loops for at most `turns` turns. There is no
result if a call is never answered. -/
def run {ω : Type} (answer : Surroundings I ω) (turns : Nat) {α : Type} :
    Program I α → ω → Option α × ω
  | done a, w => (some a, w)
  | call c k, w =>
    match answer c w with
    | (some r, w) => run answer turns (k r) w
    | (none, w) => (none, w)
  | loop body s k, w =>
    match repeated (fun s => run answer turns (body s)) turns s w with
    | (some b, w) => run answer turns (k b) w
    | (none, w) => (none, w)

end Program

end UpdateAgent
