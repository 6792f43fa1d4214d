import UpdateAgent.Program
import UpdateAgent.Proofs.List
import Mathlib.Logic.Basic
import Mathlib.Control.Monad.Basic

/-!
# Runs of programs

`Runs` is taken apart along the way a program was put together: a bind splits its calls in two, a
loop into turns that go again and one that finishes (`Turns`). `Asks p trace c` says that `p` may
come to make the call `c` after the calls in `trace`, whether or not it ever ends, so a guard on
every call of a program is a statement about `Asks`. `runs_of_run` joins `Runs` to the programs that
are executed: what a program does in surroundings that answer is one of its runs.
-/

namespace UpdateAgent.Program

variable {I : Interface} {α β σ : Type}

/-! ## The monad laws -/

protected theorem bind_done (p : Program I α) : p.bind done = p := by
  induction p with
  | done a => rfl
  | call c k ih => exact congrArg (call c) (funext ih)
  | loop body s k _ ih => exact congrArg (loop body s) (funext ih)

protected theorem bind_assoc {γ : Type} (p : Program I α) (f : α → Program I β)
    (g : β → Program I γ) : (p.bind f).bind g = p.bind fun a => (f a).bind g := by
  induction p with
  | done a => rfl
  | call c k ih => exact congrArg (call c) (funext fun r => ih r f)
  | loop body s k _ ih => exact congrArg (loop body s) (funext fun b => ih b f)

instance : LawfulMonad (Program I) :=
  LawfulMonad.mk' (Program I) (fun p => p.bind_done) (fun _ _ => rfl) Program.bind_assoc

/-! ## Runs, part by part -/

@[simp]
theorem runs_pure {a b : α} {trace : List (Exchange I)} :
    Runs (pure a : Program I α) trace b ↔ trace = [] ∧ b = a := by
  constructor
  · intro h
    cases h
    exact ⟨rfl, rfl⟩
  · rintro ⟨rfl, rfl⟩
    exact .done b

@[simp]
theorem runs_request {c : I.Call} {r : I.Reply c} {trace : List (Exchange I)} :
    Runs (request I c) trace r ↔ trace = [⟨c, r⟩] := by
  constructor
  · intro h
    cases h with
    | call r rest =>
      cases rest
      rfl
  · rintro rfl
    exact .call r (.done r)

/-- Turns of a loop that all go again, from one state to another. -/
inductive Turns (body : σ → Program I (Next σ β)) : σ → List (Exchange I) → σ → Prop
  | stay (s : σ) : Turns body s [] s
  | again {s s' s'' : σ} {turn trace : List (Exchange I)} (this : Runs (body s) turn (.again s'))
      (rest : Turns body s' trace s'') : Turns body s (turn ++ trace) s''

/-- A loop that ends has made its turns, of which the last one finished. Stated of every program,
since the loop is an index of the run on which the induction is. -/
theorem Runs.turns {p : Program I α} {trace : List (Exchange I)} {a : α} (h : Runs p trace a) :
    match p with
    | .loop body s k => ∃ before s' turn b after, Turns body s before s' ∧
        Runs (body s') turn (.finish b) ∧ Runs (k b) after a ∧ trace = before ++ (turn ++ after)
    | _ => True := by
  induction h with
  | done a => trivial
  | call r rest => trivial
  | again this rest _ ih =>
    obtain ⟨before, s', turn, b, after, hbefore, hturn, hafter, rfl⟩ := ih
    exact ⟨_, s', turn, b, after, .again this hbefore, hturn, hafter, by simp⟩
  | finish this rest => exact ⟨[], _, _, _, _, .stay _, this, rest, rfl⟩

theorem Turns.loop {body : σ → Program I (Next σ β)} {k : β → Program I α} {s s' : σ} {a : α}
    {before trace : List (Exchange I)} (h : Turns body s before s')
    (hloop : Runs (Program.loop body s' k) trace a) :
    Runs (Program.loop body s k) (before ++ trace) a := by
  induction h with
  | stay s => exact hloop
  | again this _ ih =>
    rw [List.append_assoc]
    exact .again this (ih hloop)

theorem runs_loop {body : σ → Program I (Next σ β)} {k : β → Program I α} {s : σ} {a : α}
    {trace : List (Exchange I)} :
    Runs (loop body s k) trace a ↔
      ∃ before s' turn b after, Turns body s before s' ∧ Runs (body s') turn (.finish b) ∧
        Runs (k b) after a ∧ trace = before ++ (turn ++ after) := by
  refine ⟨Runs.turns, ?_⟩
  rintro ⟨before, s', turn, b, after, hbefore, hturn, hafter, rfl⟩
  exact hbefore.loop (.finish hturn hafter)

/-- A program that goes on with the result of another makes the calls of both. -/
theorem runs_bind' {p : Program I α} {f : α → Program I β} {b : β} {trace : List (Exchange I)} :
    Runs (p.bind f) trace b ↔
      ∃ first a rest, Runs p first a ∧ Runs (f a) rest b ∧ trace = first ++ rest := by
  induction p generalizing trace with
  | done a =>
    constructor
    · exact fun h => ⟨[], a, trace, .done a, h, rfl⟩
    · rintro ⟨first, a, rest, hfirst, hrest, rfl⟩
      cases hfirst
      exact hrest
  | call c k ih =>
    constructor
    · intro h
      cases h with
      | call r h =>
        obtain ⟨first, a, rest, hfirst, hrest, rfl⟩ := (ih r).mp h
        exact ⟨⟨c, r⟩ :: first, a, rest, .call r hfirst, hrest, rfl⟩
    · rintro ⟨first, a, rest, hfirst, hrest, rfl⟩
      cases hfirst with
      | call r hfirst => exact .call r ((ih r).mpr ⟨_, a, rest, hfirst, hrest, rfl⟩)
  | loop body s k _ ih =>
    constructor
    · intro h
      obtain ⟨before, s', turn, x, after, hbefore, hturn, hafter, rfl⟩ := h.turns
      obtain ⟨first, a, rest, hfirst, hrest, rfl⟩ := (ih x).mp hafter
      exact ⟨before ++ (turn ++ first), a, rest, hbefore.loop (.finish hturn hfirst), hrest,
        by simp⟩
    · rintro ⟨first, a, rest, hfirst, hrest, rfl⟩
      obtain ⟨before, s', turn, x, after, hbefore, hturn, hafter, rfl⟩ := hfirst.turns
      have hk : Runs ((k x).bind f) (after ++ rest) b :=
        (ih x).mpr ⟨after, a, rest, hafter, hrest, rfl⟩
      have h : Runs (.loop body s fun x => (k x).bind f) (before ++ (turn ++ (after ++ rest))) b :=
        hbefore.loop (.finish hturn hk)
      simp only [List.append_assoc]
      exact h

theorem runs_bind {p : Program I α} {f : α → Program I β} {b : β} {trace : List (Exchange I)} :
    Runs (p >>= f) trace b ↔
      ∃ first a rest, Runs p first a ∧ Runs (f a) rest b ∧ trace = first ++ rest :=
  runs_bind'

/-- A call that a program makes first. -/
theorem runs_request_bind {c : I.Call} {f : I.Reply c → Program I β} {b : β}
    {trace : List (Exchange I)} :
    Runs (request I c >>= f) trace b ↔ ∃ r rest, Runs (f r) rest b ∧ trace = ⟨c, r⟩ :: rest := by
  constructor
  · intro h
    cases h with
    | call r rest => exact ⟨r, _, rest, rfl⟩
  · rintro ⟨r, rest, hrest, rfl⟩
    exact .call r hrest

theorem runs_request_discard_bind {c : I.Call} {f : Unit → Program I β} {b : β}
    {trace : List (Exchange I)} :
    Runs (discard (request I c) >>= f) trace b ↔
      ∃ r rest, Runs (f ()) rest b ∧ trace = ⟨c, r⟩ :: rest := by
  show Runs (request I c >>= fun _ => f ()) trace b ↔ _
  exact runs_request_bind

@[simp]
theorem runs_map {p : Program I α} {f : α → β} {b : β} {trace : List (Exchange I)} :
    Runs (f <$> p) trace b ↔ ∃ a, Runs p trace a ∧ b = f a := by
  rw [map_eq_pure_bind, runs_bind]
  constructor
  · rintro ⟨first, a, rest, hfirst, hrest, rfl⟩
    obtain ⟨rfl, rfl⟩ := runs_pure.mp hrest
    exact ⟨a, by simpa using hfirst, rfl⟩
  · rintro ⟨a, ha, rfl⟩
    exact ⟨trace, a, [], ha, .done _, by simp⟩

@[simp]
theorem runs_discard {p : Program I α} {u : Unit} {trace : List (Exchange I)} :
    Runs (discard p) trace u ↔ ∃ a, Runs p trace a := by
  have h : (discard p : Program I Unit) = (fun _ => ()) <$> p := rfl
  rw [h, runs_map]
  simp

theorem runs_iterate {body : σ → Program I (Next σ β)} {s : σ} {b : β}
    {trace : List (Exchange I)} :
    Runs (iterate s body) trace b ↔
      ∃ before s' turn, Turns body s before s' ∧ Runs (body s') turn (.finish b) ∧
        trace = before ++ turn := by
  rw [iterate, runs_loop]
  constructor
  · rintro ⟨before, s', turn, b', after, hbefore, hturn, hafter, rfl⟩
    cases hafter
    exact ⟨before, s', turn, hbefore, hturn, by simp⟩
  · rintro ⟨before, s', turn, hbefore, hturn, rfl⟩
    exact ⟨before, s', turn, b, [], hbefore, hturn, .done b, by simp⟩

/-! ## Calls that a program comes to -/

/-- After the calls in `trace` the program makes the call `c`, whatever the reply to it and whether
or not the program ever ends. -/
inductive Asks : {α : Type} → Program I α → List (Exchange I) → I.Call → Prop
  | now {α : Type} {c : I.Call} {k : I.Reply c → Program I α} : Asks (.call c k) [] c
  | later {α : Type} {c c' : I.Call} {k : I.Reply c → Program I α} (r : I.Reply c)
      {trace : List (Exchange I)} (rest : Asks (k r) trace c') :
      Asks (.call c k) (⟨c, r⟩ :: trace) c'
  | within {α σ β : Type} {body : σ → Program I (Next σ β)} {s : σ} {k : β → Program I α}
      {trace : List (Exchange I)} {c : I.Call} (this : Asks (body s) trace c) :
      Asks (.loop body s k) trace c
  | again {α σ β : Type} {body : σ → Program I (Next σ β)} {s s' : σ} {k : β → Program I α}
      {turn trace : List (Exchange I)} {c : I.Call} (this : Runs (body s) turn (.again s'))
      (rest : Asks (.loop body s' k) trace c) : Asks (.loop body s k) (turn ++ trace) c
  | finish {α σ β : Type} {body : σ → Program I (Next σ β)} {s : σ} {b : β}
      {k : β → Program I α} {turn trace : List (Exchange I)} {c : I.Call}
      (this : Runs (body s) turn (.finish b)) (rest : Asks (k b) trace c) :
      Asks (.loop body s k) (turn ++ trace) c

@[simp]
theorem asks_pure {a : α} {c : I.Call} {trace : List (Exchange I)} :
    Asks (pure a : Program I α) trace c ↔ False := by
  constructor
  · intro h
    cases h
  · exact False.elim

@[simp]
theorem asks_request {c c' : I.Call} {trace : List (Exchange I)} :
    Asks (request I c) trace c' ↔ trace = [] ∧ c' = c := by
  constructor
  · intro h
    cases h with
    | now => exact ⟨rfl, rfl⟩
    | later r rest => cases rest
  · rintro ⟨rfl, rfl⟩
    exact .now

/-- A loop asks in a turn after some that went again, or behind its last turn. Stated of every
program for the same reason as `Runs.turns`. -/
theorem Asks.turns {p : Program I α} {trace : List (Exchange I)} {c : I.Call}
    (h : Asks p trace c) :
    match p with
    | .loop body s k =>
      (∃ before s' rest, Turns body s before s' ∧ Asks (body s') rest c ∧
        trace = before ++ rest) ∨
      ∃ before s' turn b after, Turns body s before s' ∧ Runs (body s') turn (.finish b) ∧
        Asks (k b) after c ∧ trace = before ++ (turn ++ after)
    | _ => True := by
  induction h with
  | now => trivial
  | later r rest => trivial
  | within this => exact .inl ⟨[], _, _, .stay _, this, rfl⟩
  | again this _ ih =>
    rcases ih with ⟨before, s', rest, hbefore, hrest, rfl⟩ |
      ⟨before, s', turn, b, after, hbefore, hturn, hafter, rfl⟩
    · exact .inl ⟨_, s', rest, .again this hbefore, hrest, by simp⟩
    · exact .inr ⟨_, s', turn, b, after, .again this hbefore, hturn, hafter, by simp⟩
  | finish this rest => exact .inr ⟨[], _, _, _, _, .stay _, this, rest, rfl⟩

theorem Turns.asks {body : σ → Program I (Next σ β)} {k : β → Program I α} {s s' : σ}
    {before trace : List (Exchange I)} {c : I.Call} (h : Turns body s before s')
    (hloop : Asks (Program.loop body s' k) trace c) :
    Asks (Program.loop body s k) (before ++ trace) c := by
  induction h with
  | stay s => exact hloop
  | again this _ ih =>
    rw [List.append_assoc]
    exact .again this (ih hloop)

theorem asks_bind' {p : Program I α} {f : α → Program I β} {c : I.Call}
    {trace : List (Exchange I)} :
    Asks (p.bind f) trace c ↔ Asks p trace c ∨
      ∃ first a rest, Runs p first a ∧ Asks (f a) rest c ∧ trace = first ++ rest := by
  induction p generalizing trace with
  | done a =>
    constructor
    · exact fun h => .inr ⟨[], a, trace, .done a, h, rfl⟩
    · rintro (h | ⟨first, a, rest, hfirst, hrest, rfl⟩)
      · cases h
      · cases hfirst
        exact hrest
  | call d k ih =>
    constructor
    · intro h
      cases h with
      | now => exact .inl .now
      | later r h =>
        rcases (ih r).mp h with h | ⟨first, a, rest, hfirst, hrest, rfl⟩
        · exact .inl (.later r h)
        · exact .inr ⟨⟨d, r⟩ :: first, a, rest, .call r hfirst, hrest, rfl⟩
    · rintro (h | ⟨first, a, rest, hfirst, hrest, rfl⟩)
      · cases h with
        | now => exact .now
        | later r h => exact .later r ((ih r).mpr (.inl h))
      · cases hfirst with
        | call r hfirst => exact .later r ((ih r).mpr (.inr ⟨_, a, rest, hfirst, hrest, rfl⟩))
  | loop body s k _ ih =>
    constructor
    · intro h
      rcases h.turns with ⟨before, s', rest, hbefore, hrest, rfl⟩ |
        ⟨before, s', turn, x, after, hbefore, hturn, hafter, rfl⟩
      · exact .inl (hbefore.asks (.within hrest))
      · rcases (ih x).mp hafter with h | ⟨first, a, rest, hfirst, hrest, rfl⟩
        · exact .inl (hbefore.asks (.finish hturn h))
        · exact .inr ⟨before ++ (turn ++ first), a, rest, hbefore.loop (.finish hturn hfirst),
            hrest, by simp⟩
    · rintro (h | ⟨first, a, rest, hfirst, hrest, rfl⟩)
      · rcases h.turns with ⟨before, s', rest, hbefore, hrest, rfl⟩ |
          ⟨before, s', turn, x, after, hbefore, hturn, hafter, rfl⟩
        · exact hbefore.asks (.within hrest)
        · exact hbefore.asks (.finish hturn ((ih x).mpr (.inl hafter)))
      · -- The run of the loop is taken apart, to put what comes after it behind its last turn.
        obtain ⟨before, s', turn, x, after, hbefore, hturn, hafter, rfl⟩ := hfirst.turns
        have hk : Asks ((k x).bind f) (after ++ rest) c :=
          (ih x).mpr (.inr ⟨after, a, rest, hafter, hrest, rfl⟩)
        simp only [List.append_assoc]
        exact hbefore.asks (.finish hturn hk)

/-- What goes on with the result of a program asks what that program asks, or what comes after it
has ended. -/
theorem asks_bind {p : Program I α} {f : α → Program I β} {c : I.Call}
    {trace : List (Exchange I)} :
    Asks (p >>= f) trace c ↔ Asks p trace c ∨
      ∃ first a rest, Runs p first a ∧ Asks (f a) rest c ∧ trace = first ++ rest :=
  asks_bind'

theorem asks_request_bind {c c' : I.Call} {f : I.Reply c → Program I β}
    {trace : List (Exchange I)} :
    Asks (request I c >>= f) trace c' ↔ trace = [] ∧ c' = c ∨
      ∃ r rest, Asks (f r) rest c' ∧ trace = ⟨c, r⟩ :: rest := by
  rw [asks_bind, asks_request]
  refine or_congr_right ⟨?_, ?_⟩
  · rintro ⟨_, r, rest, hrequest, hrest, rfl⟩
    obtain rfl := runs_request.mp hrequest
    exact ⟨r, rest, hrest, rfl⟩
  · rintro ⟨r, rest, hrest, rfl⟩
    exact ⟨[⟨c, r⟩], r, rest, runs_request.mpr rfl, hrest, rfl⟩

@[simp]
theorem asks_discard {p : Program I α} {c : I.Call} {trace : List (Exchange I)} :
    Asks (discard p) trace c ↔ Asks p trace c := by
  have h : (discard p : Program I Unit) = p >>= fun _ => pure () := rfl
  rw [h, asks_bind]
  simp

theorem asks_iterate {body : σ → Program I (Next σ β)} {s : σ} {c : I.Call}
    {trace : List (Exchange I)} :
    Asks (iterate s body) trace c ↔
      ∃ before s' rest, Turns body s before s' ∧ Asks (body s') rest c ∧
        trace = before ++ rest := by
  constructor
  · intro h
    rcases h.turns with h | ⟨_, _, _, _, _, _, _, hafter, _⟩
    · exact h
    · cases hafter
  · rintro ⟨before, s', rest, hbefore, hrest, rfl⟩
    exact hbefore.asks (.within hrest)

/-- What a loop does after a turn. -/
def goOn (body : σ → Program I (Next σ β)) (k : β → Program I α) : Next σ β → Program I α
  | .again s => loop body s k
  | .finish b => k b

/-- A loop makes its first turn and goes on from there. -/
theorem runs_loop_turn {body : σ → Program I (Next σ β)} {s : σ} {k : β → Program I α}
    {trace : List (Exchange I)} {a : α} :
    Runs (loop body s k) trace a ↔ ∃ turn n rest, Runs (body s) turn n ∧
      Runs (goOn body k n) rest a ∧ trace = turn ++ rest := by
  constructor
  · intro h
    cases h with
    | again this rest => exact ⟨_, _, _, this, rest, rfl⟩
    | finish this rest => exact ⟨_, _, _, this, rest, rfl⟩
  · rintro ⟨turn, n, rest, hturn, hrest, rfl⟩
    cases n with
    | again s' => exact .again hturn hrest
    | finish b => exact .finish hturn hrest

theorem asks_loop_turn {body : σ → Program I (Next σ β)} {s : σ} {k : β → Program I α}
    {trace : List (Exchange I)} {c : I.Call} :
    Asks (loop body s k) trace c ↔ Asks (body s) trace c ∨ ∃ turn n rest, Runs (body s) turn n ∧
      Asks (goOn body k n) rest c ∧ trace = turn ++ rest := by
  constructor
  · intro h
    cases h with
    | within this => exact .inl this
    | again this rest => exact .inr ⟨_, _, _, this, rest, rfl⟩
    | finish this rest => exact .inr ⟨_, _, _, this, rest, rfl⟩
  · rintro (h | ⟨turn, n, rest, hturn, hrest, rfl⟩)
    · exact .within h
    · cases n with
      | again s' => exact .again hturn hrest
      | finish b => exact .finish hturn hrest

/-- Induction on a run where a loop has one case, whether or not its first turn goes again. -/
theorem Runs.by_turns
    {motive : ∀ {α : Type} {p : Program I α} {trace : List (Exchange I)} {a : α},
      Runs p trace a → Prop}
    (done : ∀ {α : Type} (a : α), motive (.done a))
    (call : ∀ {α : Type} {c : I.Call} {k : I.Reply c → Program I α} (r : I.Reply c)
      {trace : List (Exchange I)} {a : α} (rest : Runs (k r) trace a), motive rest →
      motive (.call r rest))
    (loop : ∀ {α σ β : Type} {body : σ → Program I (Next σ β)} {s : σ} {k : β → Program I α}
      {turn trace : List (Exchange I)} {n : Next σ β} {a : α} (this : Runs (body s) turn n)
      (rest : Runs (goOn body k n) trace a), motive this → motive rest →
      motive (runs_loop_turn.mpr ⟨turn, n, trace, this, rest, rfl⟩))
    {α : Type} {p : Program I α} {trace : List (Exchange I)} {a : α} (h : Runs p trace a) :
    motive h := by
  induction h with
  | done a => exact done a
  | call r rest ih => exact call r rest ih
  | again this rest ihthis ihrest => exact loop this rest ihthis ihrest
  | finish this rest ihthis ihrest => exact loop this rest ihthis ihrest

theorem Asks.by_turns
    {motive : ∀ {α : Type} {p : Program I α} {trace : List (Exchange I)} {c : I.Call},
      Asks p trace c → Prop}
    (now : ∀ {α : Type} {c : I.Call} {k : I.Reply c → Program I α},
      motive (.now : Asks (.call c k) [] c))
    (later : ∀ {α : Type} {c c' : I.Call} {k : I.Reply c → Program I α} (r : I.Reply c)
      {trace : List (Exchange I)} (rest : Asks (k r) trace c'), motive rest →
      motive (.later r rest))
    (within : ∀ {α σ β : Type} {body : σ → Program I (Next σ β)} {s : σ} {k : β → Program I α}
      {trace : List (Exchange I)} {c : I.Call} (this : Asks (body s) trace c), motive this →
      motive (.within this : Asks (.loop body s k) trace c))
    (after : ∀ {α σ β : Type} {body : σ → Program I (Next σ β)} {s : σ} {k : β → Program I α}
      {turn trace : List (Exchange I)} {n : Next σ β} {c : I.Call} (this : Runs (body s) turn n)
      (rest : Asks (goOn body k n) trace c), motive rest →
      motive (asks_loop_turn.mpr (.inr ⟨turn, n, trace, this, rest, rfl⟩)))
    {α : Type} {p : Program I α} {trace : List (Exchange I)} {c : I.Call} (h : Asks p trace c) :
    motive h := by
  induction h with
  | now => exact now
  | later r rest ih => exact later r rest ih
  | within this ih => exact within this ih
  | again this rest ih => exact after this rest ih
  | finish this rest ih => exact after this rest ih

/-- Every call of a run is one that the program came to. -/
theorem Runs.asks {p : Program I α} {trace : List (Exchange I)} {a : α} (h : Runs p trace a)
    {before after : List (Exchange I)} {e : Exchange I} (htrace : trace = before ++ e :: after) :
    Asks p before e.call := by
  induction h using Runs.by_turns generalizing before after with
  | done a => simp at htrace
  | call r rest ih =>
    cases before with
    | nil =>
      cases htrace
      exact .now
    | cons e' before =>
      cases htrace
      exact .later r (ih rfl)
  | loop this rest ihthis ihrest =>
    rcases append_eq_append_cons htrace with ⟨l, rfl, hl⟩ | ⟨l, hl, rfl⟩
    · exact asks_loop_turn.mpr (.inr ⟨_, _, _, this, ihrest hl, rfl⟩)
    · exact .within (ihthis hl)

/-- Every call that was made before one that a program comes to is one that it came to. -/
theorem Asks.asks {p : Program I α} {trace : List (Exchange I)} {c : I.Call} (h : Asks p trace c)
    {before after : List (Exchange I)} {e : Exchange I} (htrace : trace = before ++ e :: after) :
    Asks p before e.call := by
  induction h using Asks.by_turns generalizing before after with
  | now => simp at htrace
  | later r rest ih =>
    cases before with
    | nil =>
      cases htrace
      exact .now
    | cons e' before =>
      cases htrace
      exact .later r (ih rfl)
  | within this ih => exact .within (ih htrace)
  | after this rest ih =>
    rcases append_eq_append_cons htrace with ⟨l, rfl, hl⟩ | ⟨l, hl, rfl⟩
    · exact asks_loop_turn.mpr (.inr ⟨_, _, _, this, ih hl, rfl⟩)
    · exact .within (this.asks hl)

/-- A program may have made just these calls so far: it came to the last of them. -/
def Began (p : Program I α) (trace : List (Exchange I)) : Prop :=
  ∀ before e, trace = before ++ [e] → Asks p before e.call

theorem began_nil (p : Program I α) : Began p [] :=
  fun _ _ h => by simp at h

theorem Runs.began {p : Program I α} {trace : List (Exchange I)} {a : α} (h : Runs p trace a) :
    Began p trace :=
  fun _ _ htrace => h.asks htrace

theorem Asks.began {p : Program I α} {trace : List (Exchange I)} {c : I.Call}
    (h : Asks p trace c) (r : I.Reply c) : Began p (trace ++ [⟨c, r⟩]) := by
  intro before e htrace
  obtain ⟨rfl, he⟩ := List.append_inj' htrace rfl
  obtain rfl := List.singleton_inj.mp he
  exact h

/-- Every call that was made so far is one that the program came to. -/
theorem Began.asks {p : Program I α} {trace : List (Exchange I)} (h : Began p trace)
    {before after : List (Exchange I)} {e : Exchange I} (htrace : trace = before ++ e :: after) :
    Asks p before e.call := by
  -- The program came to the last call, and so to every call before it.
  rcases List.eq_nil_or_concat after with rfl | ⟨after, last, rfl⟩
  · exact h before e htrace
  · rw [List.concat_eq_append] at htrace
    exact (h (before ++ e :: after) last (by simp [htrace])).asks rfl

theorem Began.of_append {p : Program I α} {trace rest : List (Exchange I)}
    (h : Began p (trace ++ rest)) : Began p trace := by
  rintro before e rfl
  exact h.asks (List.append_assoc ..)

@[simp]
theorem began_pure {a : α} {trace : List (Exchange I)} :
    Began (pure a : Program I α) trace ↔ trace = [] := by
  constructor
  · intro h
    rcases List.eq_nil_or_concat trace with rfl | ⟨before, e, rfl⟩
    · rfl
    · exact (asks_pure.mp (h before e List.concat_eq_append)).elim
  · rintro rfl
    exact began_nil _

theorem began_bind {p : Program I α} {f : α → Program I β} {trace : List (Exchange I)}
    (h : Began (p >>= f) trace) :
    Began p trace ∨ ∃ first a rest, Runs p first a ∧ Began (f a) rest ∧ trace = first ++ rest := by
  rcases List.eq_nil_or_concat trace with rfl | ⟨before, e, rfl⟩
  · exact .inl (began_nil p)
  · rw [List.concat_eq_append] at h ⊢
    rcases asks_bind.mp (h before e rfl) with hp | ⟨first, a, rest, hfirst, hrest, rfl⟩
    · exact .inl (hp.began e.reply)
    · exact .inr ⟨first, a, rest ++ [e], hfirst, hrest.began e.reply, List.append_assoc ..⟩

/-- What a program has begun, everything that goes on with its result has begun. -/
theorem Began.bind {p : Program I α} {trace : List (Exchange I)} (h : Began p trace)
    (f : α → Program I β) : Began (p >>= f) trace :=
  fun before e htrace => asks_bind.mpr (.inl (h before e htrace))

theorem Runs.began_bind {p : Program I α} {f : α → Program I β} {first rest : List (Exchange I)}
    {a : α} (h : Runs p first a) (hrest : Began (f a) rest) : Began (p >>= f) (first ++ rest) := by
  rcases List.eq_nil_or_concat rest with rfl | ⟨before, e, rfl⟩
  · rw [List.append_nil]
    exact h.began.bind f
  · rw [List.concat_eq_append] at hrest ⊢
    intro before' e' htrace
    rw [← List.append_assoc] at htrace
    obtain ⟨rfl, he⟩ := List.append_inj' htrace rfl
    obtain rfl := List.singleton_inj.mp he
    exact asks_bind.mpr (.inr ⟨first, a, before, h, hrest before _ rfl, rfl⟩)

/-- What is made of the result makes no calls. -/
theorem began_bind_pure {p : Program I α} {f : α → β} {trace : List (Exchange I)}
    (h : Began (p >>= fun a => pure (f a)) trace) : Began p trace := by
  rcases began_bind h with hp | ⟨first, a, rest, hfirst, hrest, rfl⟩
  · exact hp
  · obtain rfl := began_pure.mp hrest
    rw [List.append_nil]
    exact hfirst.began

/-- A program that makes a call first has made none, or has gone on with the reply. -/
theorem began_request_bind {c : I.Call} {f : I.Reply c → Program I β}
    {trace : List (Exchange I)} (h : Began (request I c >>= f) trace) :
    trace = [] ∨ ∃ r rest, Began (f r) rest ∧ trace = ⟨c, r⟩ :: rest := by
  rcases List.eq_nil_or_concat trace with rfl | ⟨before, e, rfl⟩
  · exact .inl rfl
  · rw [List.concat_eq_append] at h ⊢
    cases h before e rfl with
    | now => exact .inr ⟨e.reply, [], began_nil _, rfl⟩
    | later r rest => exact .inr ⟨r, _, rest.began e.reply, rfl⟩

theorem began_request_discard_bind {c : I.Call} {f : Unit → Program I β}
    {trace : List (Exchange I)} (h : Began (discard (request I c) >>= f) trace) :
    trace = [] ∨ ∃ r rest, Began (f ()) rest ∧ trace = ⟨c, r⟩ :: rest :=
  began_request_bind (f := fun _ => f ()) h

/-- Every call that the program comes to is one of these. -/
def CallsOnly (P : I.Call → Prop) (p : Program I α) : Prop :=
  ∀ trace c, Asks p trace c → P c

section CallsOnly

variable {P : I.Call → Prop}

theorem CallsOnly.mono {Q : I.Call → Prop} {p : Program I α} (h : CallsOnly P p)
    (hPQ : ∀ c, P c → Q c) : CallsOnly Q p :=
  fun trace c hasks => hPQ c (h trace c hasks)

theorem callsOnly_pure (a : α) : CallsOnly P (pure a : Program I α) :=
  fun _ _ h => (asks_pure.mp h).elim

theorem callsOnly_request {c : I.Call} (h : P c) : CallsOnly P (request I c) := by
  intro trace c' hasks
  obtain ⟨-, rfl⟩ := asks_request.mp hasks
  exact h

theorem callsOnly_bind {p : Program I α} {f : α → Program I β} (hp : CallsOnly P p)
    (hf : ∀ a, CallsOnly P (f a)) : CallsOnly P (p >>= f) := by
  intro trace c h
  rcases asks_bind.mp h with h | ⟨_, a, _, _, h, _⟩
  · exact hp _ _ h
  · exact hf a _ _ h

theorem callsOnly_discard {p : Program I α} (h : CallsOnly P p) :
    CallsOnly P (discard p : Program I Unit) :=
  fun trace c hasks => h trace c (asks_discard.mp hasks)

theorem callsOnly_iterate {body : σ → Program I (Next σ β)} (h : ∀ s, CallsOnly P (body s))
    (s : σ) : CallsOnly P (iterate s body) := by
  intro trace c hasks
  obtain ⟨_, s', _, _, hasks, _⟩ := asks_iterate.mp hasks
  exact h s' _ _ hasks

/-- So every call that was made is. -/
theorem Began.callsOnly {p : Program I α} {trace : List (Exchange I)} (h : Began p trace)
    (hp : CallsOnly P p) {e : Exchange I} (he : e ∈ trace) : P e.call := by
  obtain ⟨before, after, rfl⟩ := List.append_of_mem he
  exact hp _ _ (h.asks rfl)

end CallsOnly

/-! ## Runs in surroundings -/

/-- The surroundings with a record of the calls that were answered. -/
def Surroundings.recorded {ω : Type} (answer : Surroundings I ω) :
    Surroundings I (ω × List (Exchange I)) := fun c (w, trace) =>
  match answer c w with
  | (some r, w) => (some r, (w, trace ++ [⟨c, r⟩]))
  | (none, w) => (none, (w, trace))

/-- The surroundings answer these calls one after the other, each with this reply. -/
inductive Answered {ω : Type} (answer : Surroundings I ω) : ω → List (Exchange I) → ω → Prop
  | nil (w : ω) : Answered answer w [] w
  | cons {c : I.Call} {r : I.Reply c} {w w' w'' : ω} {trace : List (Exchange I)}
      (this : answer c w = (some r, w')) (rest : Answered answer w' trace w'') :
      Answered answer w (⟨c, r⟩ :: trace) w''

theorem Answered.append {ω : Type} {answer : Surroundings I ω} {w w' w'' : ω}
    {trace trace' : List (Exchange I)} (h : Answered answer w trace w')
    (h' : Answered answer w' trace' w'') : Answered answer w (trace ++ trace') w'' := by
  induction h with
  | nil w => exact h'
  | cons this _ ih => exact .cons this (ih h')

theorem answered_of_append {ω : Type} {answer : Surroundings I ω} {w w'' : ω}
    {trace trace' : List (Exchange I)} (h : Answered answer w (trace ++ trace') w'') :
    ∃ w', Answered answer w trace w' ∧ Answered answer w' trace' w'' := by
  induction trace generalizing w with
  | nil => exact ⟨w, .nil w, h⟩
  | cons e trace ih =>
    cases h with
    | cons this rest =>
      obtain ⟨w', htrace, htrace'⟩ := ih rest
      exact ⟨w', .cons this htrace, htrace'⟩

/-- What `repeated` does in recording surroundings are turns of a loop. -/
theorem turns_of_repeated {ω : Type} {answer : Surroundings I ω} {body : σ → Program I (Next σ β)}
    {run : σ → ω × List (Exchange I) → Option (Next σ β) × (ω × List (Exchange I))}
    (hrun : ∀ s w trace n w' trace', run s (w, trace) = (some n, (w', trace')) →
      ∃ turn, Runs (body s) turn n ∧ Answered answer w turn w' ∧ trace' = trace ++ turn)
    {turns : Nat} {s : σ} {w w' : ω} {trace trace' : List (Exchange I)} {b : β}
    (h : repeated run turns s (w, trace) = (some b, (w', trace'))) :
    ∃ before s' turn, Turns body s before s' ∧ Runs (body s') turn (.finish b) ∧
      Answered answer w (before ++ turn) w' ∧ trace' = trace ++ (before ++ turn) := by
  induction turns generalizing s w trace with
  | zero => simp [repeated] at h
  | succ turns ih =>
    rw [repeated] at h
    rcases hs : run s (w, trace) with ⟨_ | n, w₁, trace₁⟩
    · simp [hs] at h
    · obtain ⟨turn, hturn, hanswered, rfl⟩ := hrun s w trace n w₁ trace₁ hs
      cases n with
      | again s₁ =>
        simp only [hs] at h
        obtain ⟨before, s', last, hbefore, hlast, hrest, rfl⟩ := ih h
        refine ⟨turn ++ before, s', last, .again hturn hbefore, hlast, ?_, by simp⟩
        rw [List.append_assoc]
        exact hanswered.append hrest
      | finish b' =>
        simp only [hs, Prod.mk.injEq, Option.some.injEq] at h
        obtain ⟨rfl, rfl, rfl⟩ := h
        exact ⟨[], s, turn, .stay s, hturn, hanswered, by simp⟩

theorem runs_of_run' {ω : Type} {answer : Surroundings I ω} {turns : Nat} {p : Program I α}
    {w w' : ω} {trace trace' : List (Exchange I)} {a : α}
    (h : p.run answer.recorded turns (w, trace) = (some a, (w', trace'))) :
    ∃ made, Runs p made a ∧ Answered answer w made w' ∧ trace' = trace ++ made := by
  induction p generalizing w w' trace trace' with
  | done a' =>
    simp only [run, Prod.mk.injEq, Option.some.injEq] at h
    obtain ⟨rfl, rfl, rfl⟩ := h
    exact ⟨[], .done a', .nil w, by simp⟩
  | call c k ih =>
    simp only [run, Surroundings.recorded] at h
    rcases hc : answer c w with ⟨_ | r, w₁⟩
    · simp [hc] at h
    · simp only [hc] at h
      obtain ⟨made, hmade, hanswered, rfl⟩ := ih r h
      exact ⟨⟨c, r⟩ :: made, .call r hmade, .cons hc hanswered, by simp⟩
  | loop body s k ihbody ihk =>
    simp only [run] at h
    rcases hs : repeated (fun s => run answer.recorded turns (body s)) turns s (w, trace) with
      ⟨_ | b, w₁, trace₁⟩
    · simp [hs] at h
    · simp only [hs] at h
      obtain ⟨before, s', turn, hbefore, hturn, hloop, rfl⟩ :=
        turns_of_repeated (fun s _ _ _ _ _ h => ihbody s h) hs
      obtain ⟨made, hmade, hanswered, rfl⟩ := ihk b h
      refine ⟨before ++ (turn ++ made), hbefore.loop (.finish hturn hmade), ?_, by simp⟩
      rw [← List.append_assoc]
      exact hloop.append hanswered

/-- What a program does in surroundings that answer every call is one of its runs, and the
surroundings are left as the answers leave them. -/
theorem runs_of_run {ω : Type} {answer : Surroundings I ω} {turns : Nat} {p : Program I α} {w : ω}
    {a : α} (h : (p.run answer.recorded turns (w, [])).1 = some a) :
    Runs p (p.run answer.recorded turns (w, [])).2.2 a ∧
      Answered answer w (p.run answer.recorded turns (w, [])).2.2
        (p.run answer.recorded turns (w, [])).2.1 := by
  rcases hrun : p.run answer.recorded turns (w, []) with ⟨_, _, trace⟩
  rw [hrun] at h
  obtain rfl : _ = some a := h
  obtain ⟨made, hmade, hanswered, rfl⟩ := runs_of_run' hrun
  exact ⟨hmade, hanswered⟩

/-! ## Replays -/

section

variable [DecidableEq I.Call]

/-- Surroundings that reply as a trace says, for as long as they are asked what it says. -/
def replay : Surroundings I (List (Exchange I))
  | c, ⟨c', r⟩ :: trace => if h : c' = c then (some (h ▸ r), trace) else (none, ⟨c', r⟩ :: trace)
  | _, [] => (none, [])

theorem Answered.replayed {trace made rest : List (Exchange I)}
    (h : Answered replay trace made rest) : trace = made ++ rest := by
  induction h with
  | nil trace => rfl
  | @cons c r trace trace' rest made this _ ih =>
    match trace, this with
    | ⟨c', r'⟩ :: trace, this =>
      by_cases hc : c' = c
      · subst hc
        simp only [replay, dif_pos, Prod.mk.injEq, Option.some.injEq] at this
        obtain ⟨rfl, rfl⟩ := this
        rw [ih, List.cons_append]
      · simp [replay, hc] at this

/-- The result of a program in such surroundings, and how many calls of the trace are left. -/
def replayed (turns : Nat) (p : Program I α) (trace : List (Exchange I)) : Option α × Nat :=
  let (result, rest, _) := p.run replay.recorded turns (trace, [])
  (result, rest.length)

theorem runs_of_replayed {turns : Nat} {p : Program I α} {trace : List (Exchange I)} {a : α}
    (h : replayed turns p trace = (some a, 0)) : Runs p trace a := by
  obtain ⟨hresult, hlength⟩ := Prod.mk.inj h
  obtain ⟨hruns, hanswered⟩ := runs_of_run hresult
  have hrest := List.length_eq_zero_iff.mp hlength
  rw [hrest] at hanswered
  rwa [hanswered.replayed, List.append_nil]

end

end UpdateAgent.Program
