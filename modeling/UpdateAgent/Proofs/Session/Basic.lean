import UpdateAgent.Proofs.Program
import UpdateAgent.Session.Basic

/-!
# Runs of sessions
-/

namespace UpdateAgent

open Program

/-- The exchange that tells watchers of a transition. -/
def Machine.Transition.announcement : Machine.Transition → List (Exchange World)
  | .moved _ target => [⟨.announce target, ()⟩]
  | .ignored .. => []

namespace Session

variable {α β σ : Type} {m m' : Machine} {trace : List (Exchange World)}

@[simp]
theorem runs_pure {a b : α} :
    Runs ((pure a : Session α).run m) trace (b, m') ↔ trace = [] ∧ b = a ∧ m = m' := by
  rw [StateT.run_pure, Program.runs_pure, Prod.mk.injEq, @eq_comm _ m']

theorem runs_bind {x : Session α} {f : α → Session β} {b : β} :
    Runs ((x >>= f).run m) trace (b, m') ↔
      ∃ first a m₁ rest, Runs (x.run m) first (a, m₁) ∧ Runs ((f a).run m₁) rest (b, m') ∧
        trace = first ++ rest := by
  rw [StateT.run_bind, Program.runs_bind]
  constructor
  · rintro ⟨first, ⟨a, m₁⟩, rest, hfirst, hrest, rfl⟩
    exact ⟨first, a, m₁, rest, hfirst, hrest, rfl⟩
  · rintro ⟨first, a, m₁, rest, hfirst, hrest, rfl⟩
    exact ⟨first, (a, m₁), rest, hfirst, hrest, rfl⟩

@[simp]
theorem runs_get {a : Machine} :
    Runs ((get : Session Machine).run m) trace (a, m') ↔ trace = [] ∧ m = a ∧ m = m' := by
  rw [StateT.run_get, Program.runs_pure, Prod.mk.injEq, @eq_comm _ a, @eq_comm _ m']

@[simp]
theorem runs_lift {p : Program World α} {a : α} :
    Runs ((liftM p : Session α).run m) trace (a, m') ↔ Runs p trace a ∧ m = m' := by
  have h : (liftM p : Session α).run m = p >>= fun a => pure (a, m) := rfl
  rw [h, Program.runs_bind]
  constructor
  · rintro ⟨first, a', rest, hfirst, hrest, rfl⟩
    rw [Program.runs_pure] at hrest
    obtain ⟨rfl, h⟩ := hrest
    obtain ⟨rfl, rfl⟩ := Prod.mk.inj h
    simpa using hfirst
  · rintro ⟨hp, rfl⟩
    exact ⟨trace, a, [], hp, by simp, by simp⟩

theorem runs_request {c : WorldCall} {r : WorldReply c} :
    Runs ((liftM (request World c) : Session _).run m) trace (r, m') ↔
      trace = [⟨c, r⟩] ∧ m = m' := by
  rw [runs_lift, Program.runs_request]

@[simp]
theorem runs_discard {x : Session α} {u : Unit} :
    Runs ((discard x : Session Unit).run m) trace (u, m') ↔ ∃ a, Runs (x.run m) trace (a, m') := by
  have h : (discard x : Session Unit).run m = x.run m >>= fun p => pure ((), p.2) := rfl
  rw [h, Program.runs_bind]
  constructor
  · rintro ⟨first, ⟨a, m₁⟩, rest, hfirst, hrest, rfl⟩
    rw [Program.runs_pure] at hrest
    obtain ⟨rfl, h⟩ := hrest
    obtain ⟨-, rfl⟩ := Prod.mk.inj h
    exact ⟨a, by simpa using hfirst⟩
  · rintro ⟨a, ha⟩
    exact ⟨trace, (a, m'), [], ha, by simp, by simp⟩

/-- An event drives the machine, and its watchers are told if it moved. -/
theorem handle_run (event : Machine.Event) (m : Machine) :
    (Session.handle event).run m =
      (match (m.handle event).1 with
        | .moved _ target => World.announce target
        | .ignored .. => pure ()) >>= fun _ => pure (m.handle event) := by
  rcases h : m.handle event with ⟨_ | _, m₁⟩ <;> simp [Session.handle, h]

theorem runs_handle {event : Machine.Event} {t : Machine.Transition} :
    Runs ((Session.handle event).run m) trace (t, m') ↔
      (t, m') = m.handle event ∧ trace = t.announcement := by
  rw [handle_run, Program.runs_bind]
  rcases h : m.handle event with ⟨_ | _, m₁⟩
  · constructor
    · rintro ⟨_, _, _, hannounce, hpure, rfl⟩
      obtain rfl := Program.runs_request.mp hannounce
      obtain ⟨rfl, h⟩ := Program.runs_pure.mp hpure
      obtain ⟨rfl, rfl⟩ := Prod.mk.inj h
      exact ⟨rfl, rfl⟩
    · rintro ⟨h, rfl⟩
      obtain ⟨rfl, rfl⟩ := Prod.mk.inj h
      exact ⟨_, (), _, Program.runs_request.mpr rfl, Program.runs_pure.mpr ⟨rfl, rfl⟩, rfl⟩
  · constructor
    · rintro ⟨_, _, _, hstay, hpure, rfl⟩
      obtain ⟨rfl, -⟩ := Program.runs_pure.mp hstay
      obtain ⟨rfl, h⟩ := Program.runs_pure.mp hpure
      obtain ⟨rfl, rfl⟩ := Prod.mk.inj h
      exact ⟨rfl, rfl⟩
    · rintro ⟨h, rfl⟩
      obtain ⟨rfl, rfl⟩ := Prod.mk.inj h
      exact ⟨_, (), _, Program.runs_pure.mpr ⟨rfl, rfl⟩, Program.runs_pure.mpr ⟨rfl, rfl⟩, rfl⟩

/-- A call that a session makes first. -/
theorem runs_request_bind {c : WorldCall} {f : WorldReply c → Session β} {b : β} :
    Runs ((liftM (request World c) >>= f).run m) trace (b, m') ↔
      ∃ r rest, Runs ((f r).run m) rest (b, m') ∧ trace = ⟨c, r⟩ :: rest := by
  rw [runs_bind]
  constructor
  · rintro ⟨_, r, _, rest, hcall, hrest, rfl⟩
    obtain ⟨rfl, rfl⟩ := runs_request.mp hcall
    exact ⟨r, rest, hrest, rfl⟩
  · rintro ⟨r, rest, hrest, rfl⟩
    exact ⟨[⟨c, r⟩], r, m, rest, runs_request.mpr ⟨rfl, rfl⟩, hrest, rfl⟩

/-- Reading the machine first calls nothing. -/
theorem runs_get_bind {f : Machine → Session β} {b : β} :
    Runs ((get >>= f).run m) trace (b, m') ↔ Runs ((f m).run m) trace (b, m') := by
  rw [runs_bind]
  constructor
  · rintro ⟨_, _, _, _, hget, hrest, rfl⟩
    obtain ⟨rfl, rfl, rfl⟩ := runs_get.mp hget
    exact hrest
  · intro h
    exact ⟨[], m, m, trace, runs_get.mpr ⟨rfl, rfl, rfl⟩, h, rfl⟩

/-- What is made of the result calls nothing. -/
theorem runs_bind_of_pure {x : Session α} {f : α → Session β} {a : α} {b : β}
    (hx : Runs (x.run m) trace (a, m')) (hf : f a = pure b) :
    Runs ((x >>= f).run m) trace (b, m') := by
  refine runs_bind.mpr ⟨trace, a, m', [], hx, ?_, (List.append_nil trace).symm⟩
  rw [hf]
  exact runs_pure.mpr ⟨rfl, rfl, rfl⟩

/-- An event that a session tells the machine of first, whatever comes of it. -/
theorem runs_tell_bind {event : Machine.Event} {f : Unit → Session β} {b : β} :
    Runs ((discard (Session.handle event) >>= f).run m) trace (b, m') ↔
      ∃ rest, Runs ((f ()).run (m.handle event).2) rest (b, m') ∧
        trace = (m.handle event).1.announcement ++ rest := by
  rw [runs_bind]
  constructor
  · rintro ⟨_, _, _, rest, htell, hrest, rfl⟩
    obtain ⟨t, htell⟩ := runs_discard.mp htell
    obtain ⟨ht, rfl⟩ := runs_handle.mp htell
    rw [← ht]
    exact ⟨rest, hrest, rfl⟩
  · rintro ⟨rest, hrest, rfl⟩
    exact ⟨_, (), _, rest, runs_discard.mpr ⟨_, runs_handle.mpr ⟨rfl, rfl⟩⟩, hrest, rfl⟩

/-! ## Calls that a session comes to -/

variable {c : WorldCall}

@[simp]
theorem asks_pure {a : α} : Asks ((pure a : Session α).run m) trace c ↔ False := by
  rw [StateT.run_pure, Program.asks_pure]

@[simp]
theorem asks_get : Asks ((get : Session Machine).run m) trace c ↔ False := by
  rw [StateT.run_get, Program.asks_pure]

theorem asks_bind {x : Session α} {f : α → Session β} :
    Asks ((x >>= f).run m) trace c ↔ Asks (x.run m) trace c ∨
      ∃ first a m₁ rest, Runs (x.run m) first (a, m₁) ∧ Asks ((f a).run m₁) rest c ∧
        trace = first ++ rest := by
  rw [StateT.run_bind, Program.asks_bind]
  apply or_congr_right
  constructor
  · rintro ⟨first, ⟨a, m₁⟩, rest, hfirst, hrest, rfl⟩
    exact ⟨first, a, m₁, rest, hfirst, hrest, rfl⟩
  · rintro ⟨first, a, m₁, rest, hfirst, hrest, rfl⟩
    exact ⟨first, (a, m₁), rest, hfirst, hrest, rfl⟩

@[simp]
theorem asks_lift {p : Program World α} :
    Asks ((liftM p : Session α).run m) trace c ↔ Asks p trace c := by
  have h : (liftM p : Session α).run m = p >>= fun a => pure (a, m) := rfl
  rw [h, Program.asks_bind]
  simp

@[simp]
theorem asks_discard {x : Session α} :
    Asks ((discard x : Session Unit).run m) trace c ↔ Asks (x.run m) trace c := by
  have h : (discard x : Session Unit).run m = x.run m >>= fun p => pure ((), p.2) := rfl
  rw [h, Program.asks_bind]
  simp

/-- The one call of an event is the announcement of the state that it moves the machine to. -/
theorem asks_handle {event : Machine.Event} :
    Asks ((Session.handle event).run m) trace c ↔
      trace = [] ∧ ∃ source target, (m.handle event).1 = .moved source target ∧
        c = .announce target := by
  rw [handle_run, Program.asks_bind]
  rcases (m.handle event).1 with ⟨source, target⟩ | _
  · have hcall : Asks (World.announce target) trace c ↔ trace = [] ∧ c = .announce target :=
      Program.asks_request
    constructor
    · rintro (h | ⟨_, _, _, _, h, _⟩)
      · obtain ⟨rfl, rfl⟩ := hcall.mp h
        exact ⟨rfl, source, target, rfl, rfl⟩
      · cases h
    · rintro ⟨rfl, _, _, heq, rfl⟩
      cases heq
      exact .inl (hcall.mpr ⟨rfl, rfl⟩)
  · simp

/-- A call that a session makes first, and then what follows. -/
theorem asks_request_bind {c' : WorldCall} {f : WorldReply c' → Session β} :
    Asks ((liftM (request World c') >>= f).run m) trace c ↔ (trace = [] ∧ c = c') ∨
      ∃ r rest, Asks ((f r).run m) rest c ∧ trace = ⟨c', r⟩ :: rest := by
  rw [asks_bind, asks_lift, asks_request]
  apply or_congr_right
  constructor
  · rintro ⟨_, r, _, rest, hcall, hrest, rfl⟩
    obtain ⟨rfl, rfl⟩ := runs_request.mp hcall
    exact ⟨r, rest, hrest, rfl⟩
  · rintro ⟨r, rest, hrest, rfl⟩
    exact ⟨[⟨c', r⟩], r, m, rest, runs_request.mpr ⟨rfl, rfl⟩, hrest, rfl⟩

/-- An event that a session tells the machine of first: its announcement, and then what follows. -/
theorem asks_tell_bind {event : Machine.Event} {f : Unit → Session β} :
    Asks ((discard (Session.handle event) >>= f).run m) trace c ↔
      (trace = [] ∧ ∃ source target, (m.handle event).1 = .moved source target ∧
        c = .announce target) ∨
      ∃ rest, Asks ((f ()).run (m.handle event).2) rest c ∧
        trace = (m.handle event).1.announcement ++ rest := by
  rw [asks_bind, asks_discard, asks_handle]
  apply or_congr_right
  constructor
  · rintro ⟨_, _, _, rest, htell, hrest, rfl⟩
    obtain ⟨t, htell⟩ := runs_discard.mp htell
    obtain ⟨ht, rfl⟩ := runs_handle.mp htell
    rw [← ht]
    exact ⟨rest, hrest, rfl⟩
  · rintro ⟨rest, hrest, rfl⟩
    exact ⟨_, (), _, rest, runs_discard.mpr ⟨_, runs_handle.mpr ⟨rfl, rfl⟩⟩, hrest, rfl⟩

/-- Reading the machine first asks for nothing. -/
theorem asks_get_bind {f : Machine → Session β} :
    Asks ((get >>= f).run m) trace c ↔ Asks ((f m).run m) trace c := by
  rw [asks_bind, asks_get, false_or]
  constructor
  · rintro ⟨_, _, _, _, hget, hrest, rfl⟩
    obtain ⟨rfl, rfl, rfl⟩ := runs_get.mp hget
    exact hrest
  · intro h
    exact ⟨[], m, m, trace, runs_get.mpr ⟨rfl, rfl, rfl⟩, h, rfl⟩

/-! ## Loops -/

/-- Turns of a session's loop that all go again. -/
inductive Turns (body : σ → Session (Next σ β)) :
    σ → Machine → List (Exchange World) → σ → Machine → Prop
  | stay (s : σ) (m : Machine) : Turns body s m [] s m
  | again {s s' s'' : σ} {m m' m'' : Machine} {turn trace : List (Exchange World)}
      (this : Runs ((body s).run m) turn (.again s', m')) (rest : Turns body s' m' trace s'' m'') :
      Turns body s m (turn ++ trace) s'' m''

/-- A turn of a session's loop as a turn of the program that the session is. -/
def turn (body : σ → Session (Next σ β)) (p : σ × Machine) :
    Program World (Next (σ × Machine) (β × Machine)) := do
  match ← (body p.1).run p.2 with
  | (.again s, machine) => pure (.again (s, machine))
  | (.finish b, machine) => pure (.finish (b, machine))

theorem runs_turn {body : σ → Session (Next σ β)} {p : σ × Machine}
    {n : Next (σ × Machine) (β × Machine)} :
    Runs (turn body p) trace n ↔
      (∃ s m, Runs ((body p.1).run p.2) trace (.again s, m) ∧ n = .again (s, m)) ∨
        ∃ b m, Runs ((body p.1).run p.2) trace (.finish b, m) ∧ n = .finish (b, m) := by
  rw [turn, Program.runs_bind]
  constructor
  · rintro ⟨first, ⟨_ | _, m⟩, rest, hfirst, hrest, rfl⟩ <;>
      obtain ⟨rfl, rfl⟩ := Program.runs_pure.mp hrest
    · exact .inl ⟨_, m, by simpa using hfirst, rfl⟩
    · exact .inr ⟨_, m, by simpa using hfirst, rfl⟩
  · rintro (⟨s, m, h, rfl⟩ | ⟨b, m, h, rfl⟩) <;>
      exact ⟨trace, _, [], h, Program.runs_pure.mpr ⟨rfl, rfl⟩, by simp⟩

theorem turns_turn {body : σ → Session (Next σ β)} {p q : σ × Machine}
    (h : Program.Turns (turn body) p trace q) : Turns body p.1 p.2 trace q.1 q.2 := by
  induction h with
  | stay p => exact .stay p.1 p.2
  | again this _ ih =>
    rcases runs_turn.mp this with ⟨s, m, h, heq⟩ | ⟨b, m, h, heq⟩
    · cases heq
      exact .again h ih
    · cases heq

theorem iterate_run (s : σ) (body : σ → Session (Next σ β)) (m : Machine) :
    (Session.iterate s body).run m = Program.iterate (s, m) (turn body) := by
  show Program.iterate _ _ = _
  congr 1
  funext ⟨s, m⟩
  show _ >>= _ = _ >>= _
  congr 1
  funext ⟨n, m⟩
  cases n <;> rfl

/-- A loop of a session that ends has made its turns, of which the last one finished. -/
theorem exists_turns {body : σ → Session (Next σ β)} {s : σ} {b : β}
    (h : Runs ((Session.iterate s body).run m) trace (b, m')) :
    ∃ before s' m₁ last, Turns body s m before s' m₁ ∧
      Runs ((body s').run m₁) last (.finish b, m') ∧ trace = before ++ last := by
  rw [iterate_run, runs_iterate] at h
  obtain ⟨before, ⟨s', m₁⟩, last, hbefore, hlast, rfl⟩ := h
  rcases runs_turn.mp hlast with ⟨_, _, _, heq⟩ | ⟨_, _, hlast, heq⟩
  · cases heq
  · cases heq
    exact ⟨before, s', m₁, last, turns_turn hbefore, hlast, rfl⟩

/-- A loop goes on from where some turns have brought it. -/
theorem Turns.iterate {body : σ → Session (Next σ β)} {s s' : σ} {m m₁ : Machine} {b : β}
    {before : List (Exchange World)} (h : Turns body s m before s' m₁)
    (hloop : Runs ((Session.iterate s' body).run m₁) trace (b, m')) :
    Runs ((Session.iterate s body).run m) (before ++ trace) (b, m') := by
  induction h with
  | stay => exact hloop
  | again this _ ih =>
    have hrest := ih hloop
    rw [iterate_run] at hrest ⊢
    rw [List.append_assoc]
    exact .again (runs_turn.mpr (.inl ⟨_, _, this, rfl⟩)) hrest

/-- It finishes with a turn that does. -/
theorem runs_iterate_of_finish {body : σ → Session (Next σ β)} {s : σ} {b : β}
    (h : Runs ((body s).run m) trace (.finish b, m')) :
    Runs ((Session.iterate s body).run m) trace (b, m') := by
  rw [iterate_run]
  exact runs_iterate.mpr ⟨[], _, trace, .stay _, runs_turn.mpr (.inr ⟨b, m', h, rfl⟩), rfl⟩

/-- A loop of a session asks in a turn after some that went again. -/
theorem exists_turns_of_asks {body : σ → Session (Next σ β)} {s : σ}
    (h : Asks ((Session.iterate s body).run m) trace c) :
    ∃ before s' m₁ rest, Turns body s m before s' m₁ ∧ Asks ((body s').run m₁) rest c ∧
      trace = before ++ rest := by
  rw [iterate_run, asks_iterate] at h
  obtain ⟨before, ⟨s', m₁⟩, rest, hbefore, hrest, rfl⟩ := h
  refine ⟨before, s', m₁, rest, turns_turn hbefore, ?_, rfl⟩
  rcases Program.asks_bind.mp hrest with hbody | ⟨_, ⟨_ | _, _⟩, _, _, hpure, _⟩
  · exact hbody
  · cases hpure
  · cases hpure

end Session

end UpdateAgent
