import UpdateAgent.Proofs.Session.Basic

/-!
# Monitors

A monitor follows a program call by call. What has happened so far is folded into a state, which
says what may be called next and which replies are counted on. A program obeys a monitor if it makes
only calls that are allowed, for as long as the replies are as expected; `Obeys` also says in which
state its result finds the monitor, so that it goes through a program part by part. What is allowed
at every call of a trace (`Lawful`) is then a fact about lists.
-/

namespace UpdateAgent

open Program

/-- Rules for the calls of a program. -/
structure Monitor (I : Interface) (σ : Type) where
  /-- The state after a call and its reply. -/
  step : σ → Exchange I → σ
  /-- The call may come next. -/
  Allows : σ → I.Call → Prop
  /-- The reply is one that is counted on. -/
  Expects : σ → Exchange I → Prop := fun _ _ => True

namespace Monitor

variable {I : Interface} {σ τ α β : Type} {M : Monitor I σ} {s : σ} {trace : List (Exchange I)}

/-! ## Along a trace -/

/-- The state after some calls. -/
def after (M : Monitor I σ) (s : σ) (trace : List (Exchange I)) : σ :=
  trace.foldl M.step s

@[simp]
theorem after_nil (M : Monitor I σ) (s : σ) : M.after s [] = s :=
  rfl

@[simp]
theorem after_cons (M : Monitor I σ) (s : σ) (e : Exchange I) (trace : List (Exchange I)) :
    M.after s (e :: trace) = M.after (M.step s e) trace :=
  rfl

@[simp]
theorem after_append (M : Monitor I σ) (s : σ) (trace trace' : List (Exchange I)) :
    M.after s (trace ++ trace') = M.after (M.after s trace) trace' :=
  List.foldl_append

/-- Every reply was as expected. -/
def Expected (M : Monitor I σ) : σ → List (Exchange I) → Prop
  | _, [] => True
  | s, e :: trace => M.Expects s e ∧ M.Expected (M.step s e) trace

theorem expected_append {trace' : List (Exchange I)} :
    M.Expected s (trace ++ trace') ↔ M.Expected s trace ∧ M.Expected (M.after s trace) trace' := by
  induction trace generalizing s with
  | nil => simp [Expected]
  | cons e trace ih => simp [Expected, ih, and_assoc]

/-- A monitor that counts on nothing finds every reply as expected. -/
theorem expected_of_forall (h : ∀ s e, M.Expects s e) : M.Expected s trace := by
  induction trace generalizing s with
  | nil => trivial
  | cons e trace ih => exact ⟨h s e, ih⟩

/-- Every call was allowed. -/
def Lawful (M : Monitor I σ) : σ → List (Exchange I) → Prop
  | _, [] => True
  | s, e :: trace => M.Allows s e.call ∧ M.Lawful (M.step s e) trace

theorem lawful_append {trace' : List (Exchange I)} :
    M.Lawful s (trace ++ trace') ↔ M.Lawful s trace ∧ M.Lawful (M.after s trace) trace' := by
  induction trace generalizing s with
  | nil => simp [Lawful]
  | cons e trace ih => simp [Lawful, ih, and_assoc]

theorem lawful_of_allows
    (h : ∀ before e rest, trace = before ++ e :: rest → M.Allows (M.after s before) e.call) :
    M.Lawful s trace := by
  induction trace generalizing s with
  | nil => trivial
  | cons e trace ih =>
    refine ⟨h [] e trace rfl, ih fun before e' rest htrace => ?_⟩
    exact h (e :: before) e' rest (by rw [htrace, List.cons_append])

section Keeps

variable {P : σ → Prop} (h : M.Lawful s trace) (hs : P s)
  (hstep : ∀ s, ∀ e ∈ trace, P s → M.Allows s e.call → P (M.step s e))

include h hs hstep

/-- What every call that is allowed keeps holds after all of them. -/
theorem Lawful.keeps : P (M.after s trace) := by
  induction trace generalizing s with
  | nil => exact hs
  | cons e trace ih =>
    refine ih h.2 (hstep s e List.mem_cons_self hs h.1) fun s' e' he' => ?_
    exact hstep s' e' (List.mem_cons_of_mem e he')

/-- So it holds when each of them is made. -/
theorem Lawful.exists_of_mem {e : Exchange I} (he : e ∈ trace) :
    ∃ s', P s' ∧ M.Allows s' e.call := by
  obtain ⟨before, rest, rfl⟩ := List.append_of_mem he
  obtain ⟨hbefore, hrest⟩ := lawful_append.mp h
  refine ⟨_, hbefore.keeps hs fun s' e' he' => ?_, hrest.1⟩
  exact hstep s' e' (List.mem_append_left _ he')

end Keeps

/-! ## Programs that obey -/

/-- From the state `s` on, the program makes only calls that are allowed, and its result finds the
monitor in a state as `Q` says. -/
structure Obeys (M : Monitor I σ) (s : σ) (p : Program I α) (Q : α → σ → Prop) : Prop where
  asks : ∀ trace c, Asks p trace c → M.Expected s trace → M.Allows (M.after s trace) c
  runs : ∀ trace a, Runs p trace a → M.Expected s trace → Q a (M.after s trace)

variable {p : Program I α} {Q : α → σ → Prop}

/-- Whatever a program that obeys has done so far was allowed. -/
theorem Obeys.lawful (h : M.Obeys s p Q) (hbegan : Began p trace) (hexpected : M.Expected s trace) :
    M.Lawful s trace := by
  refine lawful_of_allows fun before e rest htrace => ?_
  rw [htrace, expected_append] at hexpected
  exact h.asks before e.call (hbegan.asks htrace) hexpected.1

theorem Obeys.mono {Q' : α → σ → Prop} (h : M.Obeys s p Q) (hQ : ∀ a s', Q a s' → Q' a s') :
    M.Obeys s p Q' :=
  ⟨h.asks, fun trace a hruns hexpected => hQ _ _ (h.runs trace a hruns hexpected)⟩

theorem obeys_pure {a : α} (h : Q a s) : M.Obeys s (pure a) Q := by
  constructor
  · intro trace c hasks
    exact (asks_pure.mp hasks).elim
  · intro trace b hruns _
    obtain ⟨rfl, rfl⟩ := runs_pure.mp hruns
    exact h

theorem obeys_request {c : I.Call} {Q : I.Reply c → σ → Prop} (hc : M.Allows s c)
    (h : ∀ r, M.Expects s ⟨c, r⟩ → Q r (M.step s ⟨c, r⟩)) : M.Obeys s (request I c) Q := by
  constructor
  · intro trace c' hasks _
    obtain ⟨rfl, rfl⟩ := asks_request.mp hasks
    exact hc
  · intro trace r hruns hexpected
    obtain rfl := runs_request.mp hruns
    exact h r hexpected.1

theorem obeys_bind {f : α → Program I β} {Q' : β → σ → Prop} (hp : M.Obeys s p Q)
    (hf : ∀ a s', Q a s' → M.Obeys s' (f a) Q') : M.Obeys s (p >>= f) Q' := by
  constructor
  · intro trace c hasks hexpected
    rcases asks_bind.mp hasks with hasks | ⟨first, a, rest, hfirst, hrest, rfl⟩
    · exact hp.asks trace c hasks hexpected
    · rw [expected_append] at hexpected
      rw [after_append]
      exact (hf a _ (hp.runs first a hfirst hexpected.1)).asks rest c hrest hexpected.2
  · intro trace b hruns hexpected
    obtain ⟨first, a, rest, hfirst, hrest, rfl⟩ := runs_bind.mp hruns
    rw [expected_append] at hexpected
    rw [after_append]
    exact (hf a _ (hp.runs first a hfirst hexpected.1)).runs rest b hrest hexpected.2

/-- A program that makes a call first obeys if it goes on so with every reply. -/
theorem obeys_request_bind {c : I.Call} {f : I.Reply c → Program I β} {Q : β → σ → Prop}
    (hc : M.Allows s c)
    (h : ∀ r, M.Expects s ⟨c, r⟩ → M.Obeys (M.step s ⟨c, r⟩) (f r) Q) :
    M.Obeys s (request I c >>= f) Q := by
  have hcall : M.Obeys s (request I c) fun r s' =>
      M.Expects s ⟨c, r⟩ ∧ s' = M.step s ⟨c, r⟩ :=
    obeys_request hc fun r hr => ⟨hr, rfl⟩
  refine obeys_bind hcall ?_
  rintro r _ ⟨hr, rfl⟩
  exact h r hr

theorem obeys_discard {Q : Unit → σ → Prop} (h : M.Obeys s p fun _ => Q ()) :
    M.Obeys s (discard p) Q :=
  obeys_bind h fun _ _ hQ => obeys_pure hQ

/-- A loop obeys if there is an invariant that each turn hands on. -/
theorem obeys_iterate {body : τ → Program I (Next τ β)} {x : τ} {Q : β → σ → Prop}
    (Inv : τ → σ → Prop) (hx : Inv x s)
    (h : ∀ x s, Inv x s → M.Obeys s (body x) fun
      | .again x' => Inv x'
      | .finish b => Q b) : M.Obeys s (iterate x body) Q := by
  -- The invariant holds after turns that all went again.
  have hturns {x x' : τ} {s : σ} {before : List (Exchange I)} (hbefore : Turns body x before x')
      (hx : Inv x s) (hexpected : M.Expected s before) : Inv x' (M.after s before) := by
    induction hbefore generalizing s with
    | stay x => exact hx
    | again this _ ih =>
      rw [expected_append] at hexpected
      rw [after_append]
      exact ih ((h _ _ hx).runs _ _ this hexpected.1) hexpected.2
  constructor
  · intro trace c hasks hexpected
    obtain ⟨before, x', rest, hbefore, hrest, rfl⟩ := asks_iterate.mp hasks
    rw [expected_append] at hexpected
    rw [after_append]
    exact (h _ _ (hturns hbefore hx hexpected.1)).asks rest c hrest hexpected.2
  · intro trace b hruns hexpected
    obtain ⟨before, x', turn, hbefore, hturn, rfl⟩ := runs_iterate.mp hruns
    rw [expected_append] at hexpected
    rw [after_append]
    exact (h _ _ (hturns hbefore hx hexpected.1)).runs turn _ hturn hexpected.2

end Monitor

/-! ## Sessions that obey -/

namespace Session

variable {σ τ α β : Type} {M : Monitor World σ} {m : Machine} {s : σ}

/-- The session obeys when its machine is `m`, and `Q` holds of its result, of the machine then and
of the state that the monitor is in. -/
def Obeys (M : Monitor World σ) (m : Machine) (s : σ) (x : Session α)
    (Q : α → Machine → σ → Prop) : Prop :=
  M.Obeys s (x.run m) fun p => Q p.1 p.2

theorem Obeys.mono {x : Session α} {Q Q' : α → Machine → σ → Prop} (h : Obeys M m s x Q)
    (hQ : ∀ a m' s', Q a m' s' → Q' a m' s') : Obeys M m s x Q' :=
  Monitor.Obeys.mono h fun p s' => hQ p.1 p.2 s'

theorem obeys_pure {a : α} {Q : α → Machine → σ → Prop} (h : Q a m s) :
    Obeys M m s (pure a) Q :=
  Monitor.obeys_pure h

theorem obeys_bind {x : Session α} {f : α → Session β} {Q : α → Machine → σ → Prop}
    {Q' : β → Machine → σ → Prop} (hx : Obeys M m s x Q)
    (hf : ∀ a m' s', Q a m' s' → Obeys M m' s' (f a) Q') : Obeys M m s (x >>= f) Q' := by
  unfold Obeys
  rw [StateT.run_bind]
  exact Monitor.obeys_bind hx fun p s' => hf p.1 p.2 s'

theorem obeys_get_bind {f : Machine → Session β} {Q : β → Machine → σ → Prop}
    (h : Obeys M m s (f m) Q) : Obeys M m s (get >>= f) Q := by
  have hget : Obeys M m s get fun a m' s' => a = m ∧ m' = m ∧ s' = s :=
    Monitor.obeys_pure ⟨rfl, rfl, rfl⟩
  refine obeys_bind hget ?_
  rintro _ _ _ ⟨rfl, rfl, rfl⟩
  exact h

theorem obeys_lift {p : Program World α} {Q : α → Machine → σ → Prop}
    (h : M.Obeys s p fun a => Q a m) : Obeys M m s (liftM p) Q :=
  Monitor.obeys_bind h fun _ _ hQ => Monitor.obeys_pure hQ

/-- A program that a session goes on with. -/
theorem obeys_lift_bind {p : Program World α} {f : α → Session β} {Q : α → σ → Prop}
    {Q' : β → Machine → σ → Prop} (hp : M.Obeys s p Q)
    (hf : ∀ a s', Q a s' → Obeys M m s' (f a) Q') : Obeys M m s (liftM p >>= f) Q' := by
  have hlift : Obeys M m s (liftM p) fun a m' s' => m' = m ∧ Q a s' :=
    obeys_lift (hp.mono fun _ _ hQ => ⟨rfl, hQ⟩)
  refine obeys_bind hlift ?_
  rintro a _ s' ⟨rfl, hQ⟩
  exact hf a s' hQ

/-- A call that a session makes first. -/
theorem obeys_request_bind {c : WorldCall} {f : WorldReply c → Session β}
    {Q : β → Machine → σ → Prop} (hc : M.Allows s c)
    (h : ∀ r, M.Expects s ⟨c, r⟩ → Obeys M m (M.step s ⟨c, r⟩) (f r) Q) :
    Obeys M m s (liftM (request World c) >>= f) Q := by
  have hcall : M.Obeys s (request World c) fun r s' =>
      M.Expects s ⟨c, r⟩ ∧ s' = M.step s ⟨c, r⟩ :=
    Monitor.obeys_request hc fun r hr => ⟨hr, rfl⟩
  refine obeys_lift_bind hcall ?_
  rintro r _ ⟨hr, rfl⟩
  exact h r hr

theorem obeys_discard {x : Session α} {Q : Unit → Machine → σ → Prop}
    (h : Obeys M m s x fun _ => Q ()) : Obeys M m s (discard x) Q := by
  have hrun : (discard x : Session Unit).run m = x.run m >>= fun p => pure ((), p.2) := rfl
  unfold Obeys
  rw [hrun]
  exact Monitor.obeys_bind h fun p s' hQ => Monitor.obeys_pure hQ

/-- An event obeys if its announcement does, in case the machine moves. -/
theorem obeys_handle {event : Machine.Event} {Q : Machine.Transition → Machine → σ → Prop}
    (hmoved : ∀ source target, (m.handle event).1 = .moved source target →
      M.Allows s (.announce target))
    (h : M.Expected s (m.handle event).1.announcement →
      Q (m.handle event).1 (m.handle event).2 (M.after s (m.handle event).1.announcement)) :
    Obeys M m s (Session.handle event) Q := by
  constructor
  · intro trace c hasks _
    obtain ⟨rfl, source, target, hmove, rfl⟩ := asks_handle.mp hasks
    exact hmoved source target hmove
  · rintro trace ⟨t, m'⟩ hruns hexpected
    obtain ⟨ht, rfl⟩ := runs_handle.mp hruns
    obtain ⟨rfl, rfl⟩ := Prod.mk.inj ht
    exact h hexpected

/-- An event that a session tells the machine of first. -/
theorem obeys_tell_bind {event : Machine.Event} {f : Unit → Session β}
    {Q : β → Machine → σ → Prop}
    (hmoved : ∀ source target, (m.handle event).1 = .moved source target →
      M.Allows s (.announce target))
    (h : M.Expected s (m.handle event).1.announcement →
      Obeys M (m.handle event).2 (M.after s (m.handle event).1.announcement) (f ()) Q) :
    Obeys M m s (discard (Session.handle event) >>= f) Q := by
  have htell : Obeys M m s (discard (Session.handle event)) fun _ m' s' =>
      M.Expected s (m.handle event).1.announcement ∧ m' = (m.handle event).2 ∧
        s' = M.after s (m.handle event).1.announcement :=
    obeys_discard (obeys_handle hmoved fun hexpected => ⟨hexpected, rfl, rfl⟩)
  refine obeys_bind htell ?_
  rintro ⟨⟩ _ _ ⟨hexpected, rfl, rfl⟩
  exact h hexpected

/-- A loop of a session obeys if there is an invariant that each turn hands on. -/
theorem obeys_iterate {body : τ → Session (Next τ β)} {x : τ} {Q : β → Machine → σ → Prop}
    (Inv : τ → Machine → σ → Prop) (hx : Inv x m s)
    (h : ∀ x m s, Inv x m s → Obeys M m s (body x) fun
      | .again x' => Inv x'
      | .finish b => Q b) : Obeys M m s (Session.iterate x body) Q := by
  unfold Obeys
  rw [iterate_run]
  refine Monitor.obeys_iterate (fun p => Inv p.1 p.2) hx fun ⟨x, m⟩ s hinv => ?_
  refine Monitor.obeys_bind (h x m s hinv) fun ⟨n, m'⟩ s' hn => ?_
  cases n with
  | again x' => exact Monitor.obeys_pure hn
  | finish b => exact Monitor.obeys_pure hn

end Session

end UpdateAgent
