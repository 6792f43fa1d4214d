import UpdateAgent.Proofs.Monitor
import UpdateAgent.Proofs.Session.Update

/-!
# The plan of an update

What an update does from the trigger on is a plan that branches on how the fetches go, and on
nothing else (`planned`). A monitor (`watch`) waits for the trigger and then holds the calls of the
session against its plan; another (`clock`) says at which instants the replies come. What has been
done of a plan is a first part of its line along the fetches, at the same instants
(`line_of_lawful`), whatever the bus did meanwhile.
-/

namespace UpdateAgent

open Program

/-! ## Time -/

/-- The surroundings with a clock: a reply comes with the instant at which it does. -/
abbrev Timed : Interface where
  Call := WorldCall
  Reply c := Nat × WorldReply c

/-- What the session sees of it. -/
def untimed (e : Exchange Timed) : Exchange World :=
  ⟨e.call, e.reply.2⟩

namespace Update

variable {deviceId url : String} {interval : Nat} {m : Machine}
  {downloads : Nat → Except FetchError Image × Nat}

/-- The time, the instant at which the task that goes on is over, and the number of fetches that
are over. -/
structure Clock where
  now : Nat
  due : Nat
  fetched : Nat

namespace Clock

/-- The clock when the first fetch is yet to come. -/
def showing (now : Nat) : Clock where
  now
  due := now
  fetched := 0

/-- What a task comes to that starts now, and how long it takes, if the fetches go like these
downloads. -/
def task (downloads : Nat → Except FetchError Image × Nat) (k : Clock) :
    (task : Task) → task.Result × Nat
  | .fetch _ => downloads k.fetched
  | .wait milliseconds => ((), milliseconds)

/-- A task starts. -/
def start (downloads : Nat → Except FetchError Image × Nat) (k : Clock) (task : Task) : Clock :=
  { k with due := k.now + (k.task downloads task).2 }

/-- The task is over. -/
def finish (k : Clock) : Task → Clock
  | .fetch _ => { k with now := k.due, fetched := k.fetched + 1 }
  | .wait _ => { k with now := k.due }

end Clock

/-- Fetches go like these downloads and take their time, and so does waiting. Whatever is heard
while a task goes on comes before it is over or together with its end; no other call takes time. -/
def clock (downloads : Nat → Except FetchError Image × Nat) : Monitor Timed Clock where
  Allows _ _ := True
  step k
    | ⟨.start task, _⟩ => k.start downloads task
    | ⟨.turn task _, (_, .over _)⟩ => k.finish task
    | ⟨.turn .., (instant, _)⟩ => { k with now := instant }
    | _ => k
  Expects k
    | ⟨.turn task _, (instant, .over result)⟩ =>
      instant = k.due ∧ result = (k.task downloads task).1
    | ⟨.turn .., (instant, _)⟩ => k.now ≤ instant ∧ instant ≤ k.due
    | ⟨_, (instant, _)⟩ => instant = k.now

/-! ## Acts -/

/-- What an update does, apart from listening to the bus. -/
inductive Act
  | published (topic : String) (payload : Bytes)
  | started (task : Task)
  | ended (task : Task) (result : task.Result)
  | moved (state : Machine.State)

/-- What a call did, whatever the bus replied. -/
def act? : Exchange World → Option Act
  | ⟨.publish _ topic payload, _⟩ => some (.published topic payload)
  | ⟨.start task, _⟩ => some (.started task)
  | ⟨.turn task _, .over result⟩ => some (.ended task result)
  | ⟨.announce state, _⟩ => some (.moved state)
  | _ => none

/-- What was done, with the instants at which it was. -/
def timeline (trace : List (Exchange Timed)) : List (Nat × Act) :=
  trace.filterMap fun e => (act? (untimed e)).map (e.reply.1, ·)

/-- The clock after an act. -/
def Clock.pass (downloads : Nat → Except FetchError Image × Nat) (k : Clock) : Act → Clock
  | .started task => k.start downloads task
  | .ended task _ => k.finish task
  | _ => k

/-- The machine after an act. -/
def Act.move (m : Machine) : Act → Machine
  | moved state => m.moveTo state
  | _ => m

/-- The machine after some acts. -/
def moves (m : Machine) (course : List (Nat × Act)) : Machine :=
  course.foldl (fun m act => act.2.move m) m

/-! ## Plans -/

/-- What an update is going to do. -/
inductive Plan
  | act (act : Act) (rest : Plan)
  | await (task : Task) (rest : task.Result → Plan)
  | finish (outcome : Outcome)

namespace Plan

/-- What is left of a plan after an act. -/
def next : Plan → Act → Plan
  | act _ rest, _ => rest
  | await task rest, .ended task' result =>
    if h : task' = task then rest (h ▸ result) else await task rest
  | await task rest, _ => await task rest
  | finish outcome, _ => finish outcome

theorem next_await (task : Task) (rest : task.Result → Plan) (result : task.Result) :
    (await task rest).next (.ended task result) = rest result := by
  simp [next]

/-- A report, and then the rest. -/
def report (deviceId : String) (report : StatusReport) (rest : Plan) : Plan :=
  act (.published (Topic.status deviceId) report.message.bytes) rest

/-- A task, and then what comes of its result. -/
def perform (task : Task) (rest : task.Result → Plan) : Plan :=
  act (.started task) (await task rest)

/-- One download attempt, and what comes of its failure. -/
def attempt (deviceId url : String) (failed : FetchError → Plan) : Plan :=
  perform (.fetch url) fun
    | .ok image =>
      act (.moved .succeeded) <| report deviceId (.downloaded url) <|
        report deviceId (.succeeded url) <| finish (.updated image)
    | .error error => failed error

/-- The attempt with the number `a`, and up to `left` others. -/
def attempts (deviceId url : String) (interval left : Nat) (a : UInt32) : Plan :=
  attempt deviceId url fun error =>
    match left with
    | 0 =>
      act (.moved .failed) <| report deviceId (.failed url error.message) <|
        finish (.failed (a + 1) error)
    | left + 1 =>
      act (.moved (.downloading (a + 1))) <|
        perform (.wait interval) fun () => attempts deviceId url interval left (a + 1)

/-- What is done of a plan from the time on that the clock shows, if the fetches go like these
downloads, and the outcome that it comes to. -/
def line (downloads : Nat → Except FetchError Image × Nat) :
    Clock → Plan → List (Nat × Act) × Outcome
  | k, act a rest =>
    let line := rest.line downloads (k.pass downloads a)
    ((k.now, a) :: line.1, line.2)
  | k, await task rest =>
    let result := (k.task downloads task).1
    let line := (rest result).line downloads (k.finish task)
    ((k.due, .ended task result) :: line.1, line.2)
  | _, finish outcome => ([], outcome)

variable {course : List (Nat × Act)} {outcome : Outcome}

theorem line_act (k : Clock) (a : Act) {rest : Plan}
    (h : rest.line downloads (k.pass downloads a) = (course, outcome)) :
    (act a rest).line downloads k = ((k.now, a) :: course, outcome) := by
  rw [line, h]

theorem line_await (k : Clock) (task : Task) {rest : task.Result → Plan}
    (h : (rest (k.task downloads task).1).line downloads (k.finish task) = (course, outcome)) :
    (await task rest).line downloads k =
      ((k.due, .ended task (k.task downloads task).1) :: course, outcome) := by
  rw [line, h]

end Plan

/-- The plan of an update by a machine that has just been told of the trigger. -/
def planned (deviceId url : String) (interval : Nat) (budget : UInt32) : Plan :=
  .report deviceId (.received url) (.attempts deviceId url interval (budget.toNat - 1) 0)

/-! ## Following a session -/

/-- How far a session has come: it waits for a trigger, and has heard a message last, or it updates
and still has this to do. -/
inductive Stage
  | waiting (heard : Option Message)
  | updating (plan : Plan)

/-- What is known of a session. -/
structure Outlook where
  machine : Machine
  stage : Stage

namespace Outlook

/-- What is known after a call. The session plans its update when the machine accepts the trigger
that was heard last. -/
def step (deviceId : String) (interval : Nat) (s : Outlook) (e : Exchange World) : Outlook :=
  match s.stage with
  | .updating plan =>
    match act? e with
    | none => s
    | some act => ⟨act.move s.machine, .updating (plan.next act)⟩
  | .waiting heard =>
    match e with
    | ⟨.receive _, .ok message⟩ => { s with stage := .waiting (some message) }
    | ⟨.announce state, _⟩ =>
      { machine := s.machine.moveTo state
        stage :=
          if state = .downloading 0 then
            .updating (planned deviceId ((heard.bind (trigger? deviceId)).getD "") interval
              s.machine.budget)
          else .waiting heard }
    | _ => s

/-- The calls that keep to the plan. What is heard from the bus is heard while a task is awaited;
the connection is closed when nothing is left to do; no other trigger is accepted. -/
def Allows (s : Outlook) (c : WorldCall) : Prop :=
  match s.stage, c with
  | .waiting _, _ => True
  | .updating plan, .publish _ topic payload => ∃ rest, plan = .act (.published topic payload) rest
  | .updating plan, .start task => ∃ rest, plan = .act (.started task) rest
  | .updating plan, .turn task _ => ∃ rest, plan = .await task rest
  | .updating plan, .announce state =>
    state ≠ .downloading 0 ∧ ∃ rest, plan = .act (.moved state) rest
  | .updating plan, .close _ => ∃ outcome, plan = .finish outcome
  | .updating _, _ => False

end Outlook

/-- Holds what a session does against the plan of its update. -/
def watch (deviceId : String) (interval : Nat) : Monitor World Outlook where
  step := Outlook.step deviceId interval
  Allows := Outlook.Allows

/-- A session that keeps to its plan has done a first part of the line along the downloads; what is
left of the plan goes on with the rest. -/
theorem line_of_lawful {plan : Plan} {k : Clock} {trace : List (Exchange Timed)}
    (h : (watch deviceId interval).Lawful ⟨m, .updating plan⟩ (trace.map untimed))
    (htime : (clock downloads).Expected k trace) :
    ∃ plan', (watch deviceId interval).after ⟨m, .updating plan⟩ (trace.map untimed) =
        ⟨moves m (timeline trace), .updating plan'⟩ ∧
      plan.line downloads k =
        (timeline trace ++ (plan'.line downloads ((clock downloads).after k trace)).1,
          (plan'.line downloads ((clock downloads).after k trace)).2) := by
  induction trace generalizing m plan k with
  | nil => exact ⟨plan, rfl, rfl⟩
  | cons e trace ih =>
    obtain ⟨hallows, hrest⟩ := h
    obtain ⟨hexpects, hlater⟩ := htime
    obtain ⟨c, instant, r⟩ := e
    cases c with
    | publish link topic payload =>
      obtain ⟨rest, rfl⟩ := hallows
      obtain rfl : instant = k.now := hexpects
      obtain ⟨plan', hafter, hline⟩ := ih hrest hlater
      exact ⟨plan', hafter, Plan.line_act k (.published topic payload) hline⟩
    | start task =>
      obtain ⟨rest, rfl⟩ := hallows
      obtain rfl : instant = k.now := hexpects
      obtain ⟨plan', hafter, hline⟩ := ih hrest hlater
      exact ⟨plan', hafter, Plan.line_act k (.started task) hline⟩
    | announce state =>
      obtain ⟨-, rest, rfl⟩ := hallows
      obtain rfl : instant = k.now := hexpects
      obtain ⟨plan', hafter, hline⟩ := ih hrest hlater
      exact ⟨plan', hafter, Plan.line_act k (.moved state) hline⟩
    | turn task listening =>
      obtain ⟨rest, rfl⟩ := hallows
      match r with
      | .over result =>
        obtain ⟨rfl, rfl⟩ := hexpects
        have hstep : (watch deviceId interval).step ⟨m, .updating (.await task rest)⟩
            (untimed ⟨.turn task listening, (k.due, .over (k.task downloads task).1)⟩) =
              ⟨m, .updating (rest (k.task downloads task).1)⟩ := by
          show (⟨m, .updating (Plan.next (.await task rest) (.ended task _))⟩ : Outlook) = _
          rw [Plan.next_await]
        rw [hstep] at hrest
        obtain ⟨plan', hafter, hline⟩ := ih hrest hlater
        refine ⟨plan', ?_, Plan.line_await k task hline⟩
        rw [List.map_cons, Monitor.after_cons, hstep]
        exact hafter
      -- The end of the task was fixed when it started, so it does not matter what is heard.
      | .heard message => exact ih hrest hlater
      | .lost error => exact ih hrest hlater
    | close link => exact ih hrest hlater
    | _ => exact hallows.elim

end Update

end UpdateAgent
