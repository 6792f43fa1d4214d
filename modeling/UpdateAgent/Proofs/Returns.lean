import UpdateAgent.Proofs.Session.Basic

/-!
# Programs that return

`Runs` says what a program does if it comes to an end. That it does is another matter, and one of
its surroundings: they must answer what the program calls, and its loops must finish. `Returns` goes
through a program part by part, each in the surroundings that the parts before it have left.
`CanReturn` asks less: whatever calls a program has made, there are replies that bring it to an end.
What such a program has done so far is then the beginning of one of its runs.
-/

namespace UpdateAgent

open Program

/-- The surroundings answer every call. -/
def Program.Surroundings.Responsive {I : Interface} {ω : Type} (answer : Surroundings I ω) : Prop :=
  ∀ c w, ∃ r w', answer c w = (some r, w')

namespace Program

variable {I : Interface} {ω α β σ : Type} {answer : Surroundings I ω} {w : ω}

/-- The program comes to a result in these surroundings, and `Q` holds of it and of what they are
then. -/
def Returns (answer : Surroundings I ω) (w : ω) (p : Program I α) (Q : α → ω → Prop) : Prop :=
  ∃ trace a w', Runs p trace a ∧ Answered answer w trace w' ∧ Q a w'

theorem returns_pure {a : α} {Q : α → ω → Prop} (h : Q a w) :
    Returns answer w (pure a : Program I α) Q :=
  ⟨[], a, w, .done a, .nil w, h⟩

theorem returns_bind {p : Program I α} {f : α → Program I β} {Q : α → ω → Prop} {Q' : β → ω → Prop}
    (hp : Returns answer w p Q) (hf : ∀ a w', Q a w' → Returns answer w' (f a) Q') :
    Returns answer w (p >>= f) Q' := by
  obtain ⟨first, a, w₁, hfirst, hanswered, ha⟩ := hp
  obtain ⟨rest, b, w₂, hrest, hanswered', hb⟩ := hf a w₁ ha
  exact ⟨first ++ rest, b, w₂, runs_bind.mpr ⟨first, a, rest, hfirst, hrest, rfl⟩,
    hanswered.append hanswered', hb⟩

theorem returns_request {c : I.Call} {Q : I.Reply c → ω → Prop} (h : answer.Responsive)
    (hQ : ∀ r w', answer c w = (some r, w') → Q r w') : Returns answer w (request I c) Q := by
  obtain ⟨r, w', hr⟩ := h c w
  exact ⟨[⟨c, r⟩], r, w', runs_request.mpr rfl, .cons hr (.nil w'), hQ r w' hr⟩

theorem returns_request_bind {c : I.Call} {r : I.Reply c} {w' : ω} {f : I.Reply c → Program I β}
    {Q : β → ω → Prop} (hr : answer c w = (some r, w')) (hf : Returns answer w' (f r) Q) :
    Returns answer w (request I c >>= f) Q := by
  obtain ⟨rest, b, w₁, hrest, hanswered, hb⟩ := hf
  exact ⟨⟨c, r⟩ :: rest, b, w₁, runs_request_bind.mpr ⟨r, rest, hrest, rfl⟩, .cons hr hanswered, hb⟩

theorem returns_discard {p : Program I α} {Q : Unit → ω → Prop}
    (h : Returns answer w p fun _ => Q ()) : Returns answer w (discard p) Q :=
  returns_bind h fun _ _ hQ => returns_pure hQ

/-- A loop returns if its first turn does, and goes on from there so that it does. -/
theorem returns_iterate {body : σ → Program I (Next σ β)} {s : σ} {Q : β → ω → Prop}
    (h : Returns answer w (body s) fun
      | .again s' => fun w' => Returns answer w' (iterate s' body) Q
      | .finish b => Q b) : Returns answer w (iterate s body) Q := by
  obtain ⟨first, n, w₁, hfirst, hanswered, hn⟩ := h
  cases n with
  | finish b => exact ⟨first ++ [], b, w₁, .finish hfirst (.done b), hanswered.append (.nil w₁), hn⟩
  | again s' =>
    obtain ⟨rest, b, w₂, hrest, hanswered', hb⟩ := hn
    exact ⟨first ++ rest, b, w₂, .again hfirst hrest, hanswered.append hanswered', hb⟩

/-! ## Programs that can always be brought to an end -/

/-- Whatever calls the program has made, it can go on to a result. -/
def CanReturn (p : Program I α) : Prop :=
  ∀ trace, Began p trace → ∃ rest a, Runs p (trace ++ rest) a

/-- There is a run to begin with. -/
theorem CanReturn.exists_runs {p : Program I α} (h : CanReturn p) : ∃ trace a, Runs p trace a :=
  h [] (began_nil p)

theorem canReturn_pure (a : α) : CanReturn (pure a : Program I α) := by
  intro trace h
  obtain rfl := began_pure.mp h
  exact ⟨[], a, .done a⟩

/-- So it is with a call that can be answered. -/
theorem canReturn_request {c : I.Call} (r : I.Reply c) : CanReturn (request I c) := by
  intro trace h
  have h : Began (request I c >>= pure) trace := h
  rcases began_request_bind h with rfl | ⟨r', rest, hrest, rfl⟩
  · exact ⟨[⟨c, r⟩], r, runs_request.mpr rfl⟩
  · obtain rfl := began_pure.mp hrest
    exact ⟨[], r', runs_request.mpr rfl⟩

theorem canReturn_bind {p : Program I α} {f : α → Program I β} (hp : CanReturn p)
    (hf : ∀ a, CanReturn (f a)) : CanReturn (p >>= f) := by
  intro trace h
  rcases began_bind h with h | ⟨first, a, rest, hfirst, hrest, rfl⟩
  · obtain ⟨last, a, hruns⟩ := hp trace h
    obtain ⟨after, b, hafter⟩ := (hf a).exists_runs
    exact ⟨last ++ after, b, runs_bind.mpr ⟨_, a, after, hruns, hafter, by simp⟩⟩
  · obtain ⟨last, b, hruns⟩ := hf a rest hrest
    exact ⟨last, b, runs_bind.mpr ⟨first, a, _, hfirst, hruns, List.append_assoc ..⟩⟩

theorem canReturn_discard {p : Program I α} (h : CanReturn p) :
    CanReturn (discard p : Program I Unit) :=
  canReturn_bind h fun _ => canReturn_pure ()

/-- A loop can be brought to an end if each of its turns can, and a turn that finishes can follow
every one that goes again. -/
theorem canReturn_iterate {body : σ → Program I (Next σ β)} (h : ∀ s, CanReturn (body s))
    (hfinish : ∀ s, ∃ turn b, Runs (body s) turn (.finish b)) (s : σ) :
    CanReturn (iterate s body) := by
  intro trace hbegan
  rcases List.eq_nil_or_concat trace with rfl | ⟨made, e, rfl⟩
  · obtain ⟨turn, b, hturn⟩ := hfinish s
    exact ⟨turn, b, runs_iterate.mpr ⟨[], s, turn, .stay s, hturn, rfl⟩⟩
  · rw [List.concat_eq_append] at hbegan ⊢
    -- The turn under way is brought to an end, and one that finishes follows if it goes again.
    obtain ⟨before, s', started, hbefore, hasks, rfl⟩ := asks_iterate.mp (hbegan made e rfl)
    obtain ⟨rest, n, hturn⟩ := h s' _ (hasks.began e.reply)
    cases n with
    | finish b =>
      exact ⟨rest, b, runs_iterate.mpr ⟨before, s', _, hbefore, hturn, by simp⟩⟩
    | again s'' =>
      obtain ⟨turn, b, hlast⟩ := hfinish s''
      have hloop : Runs (iterate s' body) ((started ++ [e] ++ rest) ++ turn) b :=
        .again hturn (runs_iterate.mpr ⟨[], s'', turn, .stay s'', hlast, rfl⟩)
      have hruns : Runs (iterate s body) _ b := hbefore.loop hloop
      exact ⟨rest ++ turn, b, by simpa using hruns⟩

end Program

namespace Session

variable {ω α β σ : Type} {answer : Surroundings World ω} {w : ω} {m : Machine}

/-- The session comes to a result in these surroundings when its machine is `m`, and `Q` holds of
the result, of the machine then and of what the surroundings are then. -/
def Returns (answer : Surroundings World ω) (m : Machine) (w : ω) (x : Session α)
    (Q : α → Machine → ω → Prop) : Prop :=
  Program.Returns answer w (x.run m) fun p => Q p.1 p.2

theorem Returns.mono {x : Session α} {Q Q' : α → Machine → ω → Prop} (h : Returns answer m w x Q)
    (hQ : ∀ a m' w', Q a m' w' → Q' a m' w') : Returns answer m w x Q' := by
  obtain ⟨trace, p, w', hruns, hanswered, hp⟩ := h
  exact ⟨trace, p, w', hruns, hanswered, hQ _ _ _ hp⟩

theorem returns_pure {a : α} {Q : α → Machine → ω → Prop} (h : Q a m w) :
    Returns answer m w (pure a) Q :=
  Program.returns_pure h

theorem returns_bind {x : Session α} {f : α → Session β} {Q : α → Machine → ω → Prop}
    {Q' : β → Machine → ω → Prop} (hx : Returns answer m w x Q)
    (hf : ∀ a m' w', Q a m' w' → Returns answer m' w' (f a) Q') :
    Returns answer m w (x >>= f) Q' := by
  unfold Returns
  rw [StateT.run_bind]
  exact Program.returns_bind hx fun p w' => hf p.1 p.2 w'

theorem returns_get_bind {f : Machine → Session β} {Q : β → Machine → ω → Prop}
    (h : Returns answer m w (f m) Q) : Returns answer m w (get >>= f) Q := by
  have hget : Returns answer m w get fun a m' w' => a = m ∧ m' = m ∧ w' = w :=
    Program.returns_pure ⟨rfl, rfl, rfl⟩
  refine returns_bind hget ?_
  rintro _ _ _ ⟨rfl, rfl, rfl⟩
  exact h

theorem returns_lift_bind {p : Program World α} {f : α → Session β} {Q : α → ω → Prop}
    {Q' : β → Machine → ω → Prop} (hp : Program.Returns answer w p Q)
    (hf : ∀ a w', Q a w' → Returns answer m w' (f a) Q') :
    Returns answer m w (liftM p >>= f) Q' := by
  have hlift : Returns answer m w (liftM p) fun a m' w' => m' = m ∧ Q a w' :=
    Program.returns_bind hp fun _ _ hQ => Program.returns_pure ⟨rfl, hQ⟩
  refine returns_bind hlift ?_
  rintro a _ w' ⟨rfl, hQ⟩
  exact hf a w' hQ

section

variable (h : answer.Responsive)

include h

/-- A call that a session makes first. -/
theorem returns_request_bind {c : WorldCall} {f : WorldReply c → Session β}
    {Q : β → Machine → ω → Prop}
    (hf : ∀ r w', answer c w = (some r, w') → Returns answer m w' (f r) Q) :
    Returns answer m w (liftM (request World c) >>= f) Q := by
  have hcall : Program.Returns answer w (request World c) fun r w' =>
      answer c w = (some r, w') :=
    Program.returns_request h fun _ _ hr => hr
  exact returns_lift_bind hcall hf

/-- An event that moves the machine, of which a session tells it first. -/
theorem returns_moved_bind {event : Machine.Event} {source target : Machine.State} {m₁ : Machine}
    {f : Unit → Session β} {Q : β → Machine → ω → Prop}
    (hmove : m.handle event = (.moved source target, m₁))
    (hf : ∀ w', Returns answer m₁ w' (f ()) Q) :
    Returns answer m w (discard (Session.handle event) >>= f) Q := by
  obtain ⟨⟨⟩, w', hr⟩ := h (.announce target) w
  obtain ⟨rest, ⟨b, m'⟩, w₂, hrest, hanswered, hb⟩ := hf w'
  refine ⟨⟨.announce target, ()⟩ :: rest, (b, m'), w₂, ?_, .cons hr hanswered, hb⟩
  refine runs_tell_bind.mpr ⟨rest, ?_, ?_⟩
  · rw [hmove]
    exact hrest
  · rw [hmove]
    rfl

end

/-- An event that the machine ignores makes no difference. -/
theorem returns_ignored_bind {event : Machine.Event} {state : Machine.State} {f : Unit → Session β}
    {Q : β → Machine → ω → Prop} (hstay : m.handle event = (.ignored state event, m))
    (hf : Returns answer m w (f ()) Q) :
    Returns answer m w (discard (Session.handle event) >>= f) Q := by
  obtain ⟨rest, ⟨b, m'⟩, w₂, hrest, hanswered, hb⟩ := hf
  refine ⟨rest, (b, m'), w₂, runs_tell_bind.mpr ⟨rest, ?_, ?_⟩, hanswered, hb⟩
  · rw [hstay]
    exact hrest
  · rw [hstay]
    rfl

/-- A loop returns if its first turn does, and goes on from there so that it does. -/
theorem returns_iterate {body : σ → Session (Next σ β)} {s : σ} {Q : β → Machine → ω → Prop}
    (h : Returns answer m w (body s) fun
      | .again s' => fun m' w' => Returns answer m' w' (Session.iterate s' body) Q
      | .finish b => Q b) : Returns answer m w (Session.iterate s body) Q := by
  unfold Returns
  rw [iterate_run]
  refine Program.returns_iterate (Program.returns_bind h ?_)
  rintro ⟨n, m'⟩ w' hn
  cases n with
  | again s' =>
    refine Program.returns_pure ?_
    show Program.Returns answer w' (Program.iterate (s', m') (turn body)) fun p => Q p.1 p.2
    rw [← iterate_run]
    exact hn
  | finish b => exact Program.returns_pure hn

/-! ## Sessions that can always be brought to an end -/

theorem canReturn_bind {x : Session α} {f : α → Session β} (hx : CanReturn (x.run m))
    (hf : ∀ a m', CanReturn ((f a).run m')) : CanReturn ((x >>= f).run m) := by
  rw [StateT.run_bind]
  exact Program.canReturn_bind hx fun p => hf p.1 p.2

theorem canReturn_lift {p : Program World α} (h : CanReturn p) :
    CanReturn ((liftM p : Session α).run m) :=
  Program.canReturn_bind h fun _ => canReturn_pure _

theorem canReturn_tell (event : Machine.Event) :
    CanReturn ((discard (Session.handle event) : Session Unit).run m) := by
  have hhandle : CanReturn ((Session.handle event).run m) := by
    rw [handle_run]
    refine Program.canReturn_bind ?_ fun _ => canReturn_pure _
    split
    · exact canReturn_request ()
    · exact canReturn_pure _
  exact Program.canReturn_bind hhandle fun _ => canReturn_pure _

end Session

end UpdateAgent
