import UpdateAgent.Proofs.Returns
import UpdateAgent.Proofs.Session.Planned

/-!
# Updates that the bus does not disturb

Once a session has accepted a trigger, it makes no difference to the update what happens on the
bus. That every continuation goes along one course comes from the plan; that a session comes to the
end of it needs surroundings in which tasks come to theirs (`Patient`).
-/

namespace UpdateAgent.Update

open Program Trace

variable {deviceId url : String} {config : Config} {link : Link} {m : Machine} {α ω : Type}

/-! ## From the trigger on -/

/-- Once there is a plan, there always is. -/
theorem exists_after_updating (deviceId : String) (interval : Nat) (m : Machine) (plan : Plan)
    (trace : List (Exchange World)) :
    ∃ m' plan', (watch deviceId interval).after ⟨m, .updating plan⟩ trace =
      ⟨m', .updating plan'⟩ := by
  induction trace generalizing m plan with
  | nil => exact ⟨m, plan, rfl⟩
  | cons e trace ih =>
    cases hact : act? e with
    | none =>
      have hstep : (watch deviceId interval).step ⟨m, .updating plan⟩ e =
          ⟨m, .updating plan⟩ := by
        simp [watch, Outlook.step, hact]
      rw [Monitor.after_cons, hstep]
      exact ih m plan
    | some act =>
      have hstep : (watch deviceId interval).step ⟨m, .updating plan⟩ e =
          ⟨act.move m, .updating (plan.next act)⟩ := by
        simp [watch, Outlook.step, hact]
      rw [Monitor.after_cons, hstep]
      exact ih (act.move m) (plan.next act)

/-- A call by which the machine accepts a trigger. -/
abbrev accept : Exchange World :=
  ⟨.announce (.downloading 0), ()⟩

/-- An update under way accepts no other trigger. -/
theorem not_asks_accept (hstate : m.state = .downloading 0) (hbudget : 0 < m.budget)
    {trace : List (Exchange World)} :
    ¬ Asks ((goOn deviceId config link url).run m) trace (.announce (.downloading 0)) := by
  intro hasks
  have hallows := (goOn_keeps hstate hbudget).asks trace _ hasks
    (Monitor.expected_of_forall fun _ _ => trivial)
  obtain ⟨m', plan', hafter⟩ := exists_after_updating deviceId config.retry.interval m
    (planned deviceId url config.retry.interval m.budget) trace
  rw [hafter] at hallows
  exact hallows.1 rfl

/-- So there is a plan from the moment on when the trigger was accepted. -/
theorem exists_plan {credentials : Credentials} {before : List (Exchange World)}
    (h : Asks ((run credentials config).run m) before accept.call) :
    ∃ m₁ plan, (watch credentials.deviceId config.retry.interval).after ⟨m, .waiting none⟩
      (before ++ [accept]) = ⟨m₁, .updating plan⟩ := by
  have hallows := (run_keeps credentials config m).asks before _ h
    (Monitor.expected_of_forall fun _ _ => trivial)
  rw [Monitor.after_append]
  generalize (watch credentials.deviceId config.retry.interval).after ⟨m, .waiting none⟩ before = s
    at hallows ⊢
  obtain ⟨m₁, stage⟩ := s
  cases stage with
  | waiting heard => exact ⟨m₁.moveTo (.downloading 0), _, rfl⟩
  | updating plan => exact (hallows.1 rfl).elim

/-- After the calls in `before` the session comes to accept a trigger. What it does from then on is
the update, and its result is made of the outcome. -/
def Accepts (deviceId : String) (config : Config) (link : Link) (x : Session α) (m : Machine)
    (before : List (Exchange World)) (result : Outcome → α) : Prop :=
  ∃ url m₁, m₁.state = .downloading 0 ∧ 0 < m₁.budget ∧ ∀ rest outcome m',
    Runs ((goOn deviceId config link url).run m₁) rest (outcome, m') →
      Runs (x.run m) (before ++ accept :: rest) (result outcome, m')

theorem takeMessage_accepts (hstate : m.state = .awaitingTrigger) (hbudget : 0 < m.budget)
    {message : Message} {before : List (Exchange World)}
    (h : Asks ((takeMessage deviceId config link message).run m) before accept.call) :
    Accepts deviceId config link (takeMessage deviceId config link message) m before some := by
  cases htrigger : trigger? deviceId message with
  | none =>
    rw [takeMessage_of_none htrigger] at h
    cases h
  | some url =>
    have hrun : (takeMessage deviceId config link message).run m = _ :=
      takeMessage_run hstate htrigger
    rw [hrun] at h
    cases h with
    | now =>
      refine ⟨url, m.moveTo (.downloading 0), rfl, hbudget, fun rest outcome m' hrest => ?_⟩
      have htaken : Runs ((goOn deviceId config link url >>= fun outcome =>
          pure (some outcome)).run (m.moveTo (.downloading 0))) rest (some outcome, m') :=
        Session.runs_bind_of_pure hrest rfl
      rw [hrun]
      exact Program.runs_request_bind.mpr ⟨(), rest, htaken, rfl⟩
    | later r hlater =>
      rcases Session.asks_bind.mp hlater with hgo | ⟨_, _, _, _, _, hpure, _⟩
      · exact (not_asks_accept (Machine.moveTo_state ..) hbudget hgo).elim
      · cases hpure

theorem serveTurn_accepts (hstate : m.state = .awaitingTrigger) (hbudget : 0 < m.budget)
    {before : List (Exchange World)}
    (h : Asks ((serveTurn deviceId config link).run m) before accept.call) :
    Accepts deviceId config link (serveTurn deviceId config link) m before
      fun outcome => .finish (.ok outcome) := by
  rcases Session.asks_request_bind.mp h with ⟨_, heq⟩ | ⟨r, rest, hrest, rfl⟩
  · cases heq
  · cases r with
    | error error => exact (Session.asks_pure.mp hrest).elim
    | ok message =>
      rcases Session.asks_bind.mp hrest with htake | ⟨_, taken, _, _, _, hpure, _⟩
      · obtain ⟨url, m₁, hstate₁, hbudget₁, hgo⟩ := takeMessage_accepts hstate hbudget htake
        refine ⟨url, m₁, hstate₁, hbudget₁, fun later outcome m' hlater => ?_⟩
        refine Session.runs_request_bind.mpr ⟨.ok message, _, ?_, rfl⟩
        exact Session.runs_bind_of_pure (hgo later outcome m' hlater) rfl
      · cases taken <;> exact (Session.asks_pure.mp hpure).elim

theorem serve_accepts (hstate : m.state = .registered) (hbudget : 0 < m.budget)
    {before : List (Exchange World)}
    (h : Asks ((serve deviceId config link).run m) before accept.call) :
    Accepts deviceId config link (serve deviceId config link) m before .ok := by
  rcases Session.asks_request_bind.mp h with ⟨_, heq⟩ | ⟨r, rest, hrest, rfl⟩
  · cases heq
  · cases r with
    | error error => exact (Session.asks_pure.mp hrest).elim
    | ok =>
      rcases Session.asks_request_bind.mp hrest with ⟨_, heq⟩ | ⟨r, rest, hrest', rfl⟩
      · cases heq
      · cases r with
        | error error => exact (Session.asks_pure.mp hrest').elim
        | ok =>
          rcases Session.asks_tell_bind.mp hrest' with ⟨_, _, _, hmoved, heq⟩ | ⟨rest, hloop, rfl⟩
          · rw [Machine.handle_subscribed hstate] at hmoved
            cases hmoved
            cases heq
          · rw [Machine.handle_subscribed hstate] at hloop ⊢
            obtain ⟨turns, _, _, last, hturns, hlast, rfl⟩ := Session.exists_turns_of_asks hloop
            obtain ⟨rfl, -, -⟩ := serveTurns_spec hturns (Machine.moveTo_state ..) hbudget
            obtain ⟨url, m₁, hstate₁, hbudget₁, hgo⟩ :=
              serveTurn_accepts (Machine.moveTo_state ..) hbudget hlast
            refine ⟨url, m₁, hstate₁, hbudget₁, fun later outcome m' hlater => ?_⟩
            refine Session.runs_request_bind.mpr ⟨.ok (), _, ?_, rfl⟩
            refine Session.runs_request_bind.mpr ⟨.ok (), _, ?_, rfl⟩
            refine Session.runs_tell_bind.mpr ⟨turns ++ (last ++ accept :: later), ?_, ?_⟩
            · rw [Machine.handle_subscribed hstate]
              exact hturns.iterate (Session.runs_iterate_of_finish (hgo later outcome m' hlater))
            · rw [Machine.handle_subscribed hstate]
              simp

/-- Over the connection that it has opened, the session goes on with the update until it is over,
and closes the connection then. -/
theorem run_accepts {credentials : Credentials} {before : List (Exchange World)}
    (h : Asks ((run credentials config).run m) before accept.call) :
    ∃ link url m₁, m₁.state = .downloading 0 ∧ 0 < m₁.budget ∧ ∀ rest outcome m',
      Runs ((goOn credentials.deviceId config link url).run m₁) rest (outcome, m') →
        Runs ((run credentials config).run m)
          (before ++ accept :: (rest ++ [⟨.close link, ()⟩])) (.ok outcome, m') := by
  have hbody := Session.asks_get_bind.mp h
  split at hbody
  · cases hbody
  · rename_i hstate
    split at hbody
    · cases hbody
    · rename_i hattempts
      have hbudget : 0 < m.budget := by
        rw [← not_not.mp hattempts]
        exact Machine.new_budget_pos config.retry.maxAttempts
      rcases Session.asks_request_bind.mp hbody with ⟨_, heq⟩ | ⟨r, rest, hrest, rfl⟩
      · cases heq
      · cases r with
        | error error => exact (Session.asks_pure.mp hrest).elim
        | ok link =>
          rcases Session.asks_bind.mp hrest with hserve | ⟨_, _, _, _, _, hclose, _⟩
          · obtain ⟨url, m₁, hstate₁, hbudget₁, hgo⟩ :=
              serve_accepts (not_not.mp hstate) hbudget hserve
            refine ⟨link, url, m₁, hstate₁, hbudget₁, fun later outcome m' hlater => ?_⟩
            refine Session.runs_get_bind.mpr ?_
            rw [if_neg hstate, if_neg hattempts]
            refine Session.runs_request_bind.mpr ⟨.ok link, _, ?_, rfl⟩
            refine Session.runs_bind.mpr ⟨_, _, _, [⟨.close link, ()⟩],
              hgo later outcome m' hlater, ?_, by simp⟩
            exact Session.runs_request_bind.mpr
              ⟨(), [], Session.runs_pure.mpr ⟨rfl, rfl, rfl⟩, rfl⟩
          · rcases Session.asks_request_bind.mp hclose with ⟨_, heq⟩ | ⟨_, _, hpure, _⟩
            · cases heq
            · exact (Session.asks_pure.mp hpure).elim

/-! ## Coming to an end -/

section

variable {answer : Surroundings World ω} {w : ω}

/-- Whatever is heard meanwhile, the task comes to its end. -/
inductive Ends (answer : Surroundings World ω) (task : Task) : ω → Prop
  | intro {w : ω} (later : ∀ listening r w', answer (.turn task listening) w = (some r, w') →
      (∀ result, r ≠ .over result) → Ends answer task w') : Ends answer task w

/-- Every call is answered, and every task comes to its end. -/
structure Patient (answer : Surroundings World ω) : Prop where
  responsive : answer.Responsive
  ends : ∀ task w, Ends answer task w

theorem report_returns (h : Patient answer) {r : StatusReport} {β : Type} {f : Unit → Session β}
    {Q : β → Machine → ω → Prop} (hf : ∀ w', Session.Returns answer m w' (f ()) Q) :
    Session.Returns answer m w (liftM (report deviceId link r) >>= f) Q := by
  have hreport : Returns answer w (report deviceId link r) fun _ _ => True :=
    returns_discard (returns_request h.responsive fun _ _ _ => trivial)
  exact Session.returns_lift_bind hreport fun _ w' _ => hf w'

/-- A turn that leads to another has heard something. -/
theorem drainTurn_returns (h : Patient answer) {a : UInt32} (hstate : m.state = .downloading a)
    (task : Task) (isAlive : Bool) :
    Session.Returns answer m w (drainTurn deviceId link task isAlive) fun
      | .again _ => fun m' w' => m = m' ∧ ∃ listening r,
          answer (.turn task listening) w = (some r, w') ∧ ∀ result, r ≠ .over result
      | .finish _ => fun m' _ => m = m' := by
  refine Session.returns_request_bind h.responsive fun r w' hr => ?_
  match r with
  | .over result => exact Session.returns_pure rfl
  | .lost error => exact Session.returns_pure ⟨rfl, _, _, hr, nofun⟩
  | .heard message =>
    show Session.Returns answer m w' _ _
    dsimp only
    split
    · split
      · refine Session.returns_ignored_bind (Machine.handle_trigger_downloading hstate) ?_
        exact Session.returns_pure ⟨rfl, _, _, hr, nofun⟩
      · exact Session.returns_pure ⟨rfl, _, _, hr, nofun⟩
    · exact Session.returns_pure ⟨rfl, _, _, hr, nofun⟩

theorem drain_returns (h : Patient answer) {a : UInt32} (hstate : m.state = .downloading a)
    (task : Task) (isAlive : Bool) :
    Session.Returns answer m w (drain deviceId link isAlive task) fun _ m' _ => m = m' := by
  -- By induction on how the task comes to its end.
  have hturns {w : ω} (hends : Ends answer task w) (isAlive : Bool) :
      Session.Returns answer m w (Session.iterate isAlive (drainTurn deviceId link task))
        fun _ m' _ => m = m' := by
    induction hends generalizing isAlive with
    | intro _ ih =>
      refine Session.returns_iterate ((drainTurn_returns h hstate task isAlive).mono ?_)
      intro n m' w' hn
      cases n with
      | again alive =>
        obtain ⟨rfl, listening, r, hr, hgo⟩ := hn
        exact ih listening r w' hr hgo alive
      | finish p => exact hn
  refine Session.returns_request_bind h.responsive fun _ w' _ => ?_
  exact hturns (h.ends task w') isAlive

/-- An attempt that is not the last counts one up. -/
theorem superviseTurn_returns (h : Patient answer) {a : UInt32} (hstate : m.state = .downloading a)
    (isAlive : Bool) :
    Session.Returns answer m w (superviseTurn deviceId config link url isAlive) fun
      | .again _ => fun m' _ => m'.state = .downloading (a + 1) ∧ a + 1 < m'.budget ∧
          m'.budget = m.budget
      | .finish _ => fun _ _ => True := by
  refine Session.returns_get_bind (Session.returns_bind (drain_returns h hstate ..) ?_)
  rintro ⟨result, alive⟩ _ w₁ rfl
  cases result with
  | ok image =>
    refine Session.returns_moved_bind h.responsive (Machine.handle_fetchSucceeded hstate) ?_
    intro w₂
    refine report_returns h fun w₃ => report_returns h fun w₄ => ?_
    exact Session.returns_pure trivial
  | error error =>
    by_cases hlt : a + 1 < m.budget
    · refine Session.returns_moved_bind h.responsive
        (Machine.handle_fetchFailed_of_lt hstate hlt) fun w₂ => Session.returns_get_bind ?_
      have hgo : (m.moveTo (.downloading (a + 1))).state ≠ .failed := by simp
      rw [if_neg hgo]
      refine Session.returns_bind (drain_returns h (Machine.moveTo_state ..) ..) ?_
      rintro _ _ w₃ rfl
      exact Session.returns_pure ⟨rfl, hlt, rfl⟩
    · refine Session.returns_moved_bind h.responsive
        (Machine.handle_fetchFailed_of_not_lt hstate hlt) fun w₂ => Session.returns_get_bind ?_
      rw [if_pos (Machine.moveTo_state ..)]
      exact report_returns h fun w₃ => Session.returns_pure trivial

/-- The budget bounds the attempts, so that an update comes to its end. -/
theorem supervise_returns (h : Patient answer) {a : UInt32} (hstate : m.state = .downloading a)
    (hlt : a < m.budget) :
    Session.Returns answer m w (supervise deviceId config link url) fun _ _ _ => True := by
  have hturns (left : Nat) {m : Machine} {w : ω} {a : UInt32} (isAlive : Bool)
      (hstate : m.state = .downloading a) (hlt : a < m.budget)
      (hleft : m.budget.toNat - a.toNat ≤ left) :
      Session.Returns answer m w
        (Session.iterate isAlive (superviseTurn deviceId config link url))
        fun _ _ _ => True := by
    induction left generalizing m w a isAlive with
    | zero =>
      have hless := UInt32.lt_iff_toNat_lt.mp hlt
      omega
    | succ left ih =>
      refine Session.returns_iterate ((superviseTurn_returns h hstate isAlive).mono ?_)
      intro n m' w' hn
      cases n with
      | again alive =>
        obtain ⟨hstate', hlt', hbudget⟩ := hn
        refine ih alive hstate' hlt' ?_
        rw [hbudget, Machine.toNat_next_attempt hlt]
        omega
      | finish outcome => exact hn
  exact hturns _ true hstate hlt (Nat.le_refl _)

theorem goOn_returns (h : Patient answer) (hstate : m.state = .downloading 0)
    (hbudget : 0 < m.budget) :
    Session.Returns answer m w (goOn deviceId config link url) fun _ _ _ => True :=
  report_returns h fun _ => supervise_returns h hstate hbudget

end

/-! ## Continuations -/

/-- One way in which things may go on from some moment: the reply to a call, and the instant at
which it comes, may depend on everything that has happened since. -/
abbrev Continuation : Type :=
  List (Exchange Timed) → (c : WorldCall) → Nat × WorldReply c

namespace Continuation

variable {downloads : Nat → Except FetchError Image × Nat} {now : Nat} {k : Continuation}

/-- The surroundings that a continuation is. -/
def answer (k : Continuation) : Surroundings World (List (Exchange Timed)) := fun c past =>
  (some (k past c).2, past ++ [⟨c, k past c⟩])

/-- From the time `now` on, the fetches of a continuation go like these downloads, and its tasks
take their time. -/
def KeepsTime (downloads : Nat → Except FetchError Image × Nat) (now : Nat) (k : Continuation) :
    Prop :=
  ∀ past, (clock downloads).Expected (.showing now) past → ∀ c,
    (clock downloads).Expects ((clock downloads).after (.showing now) past) ⟨c, k past c⟩

/-- What has happened is what was answered, each reply at its instant. -/
theorem exists_of_answered (hk : k.KeepsTime downloads now) {past past' : List (Exchange Timed)}
    {made : List (Exchange World)} (h : Answered k.answer past made past')
    (hpast : (clock downloads).Expected (.showing now) past) :
    ∃ rest, past' = past ++ rest ∧ made = rest.map untimed ∧
      (clock downloads).Expected (.showing now) past' := by
  induction h with
  | nil past => exact ⟨[], (List.append_nil past).symm, rfl, hpast⟩
  | @cons c r past past' past'' made this _ ih =>
    obtain ⟨rfl, rfl⟩ : (k past c).2 = r ∧ past ++ [⟨c, k past c⟩] = past' := by
      simpa [answer] using this
    have hnext : (clock downloads).Expected (.showing now) (past ++ [⟨c, k past c⟩]) :=
      Monitor.expected_append.mpr ⟨hpast, hk past hpast c, trivial⟩
    obtain ⟨rest, rfl, rfl, hexpected⟩ := ih hnext
    exact ⟨⟨c, k past c⟩ :: rest, by simp, rfl, hexpected⟩

end Continuation

/-- Once a new session has accepted a trigger, the bus has no influence on its update. There is one
course, one outcome and one last state of the machine for all continuations in which the fetches go
alike: whatever a session has published, fetched and moved to at any instant is a first part of the
course; if it has come to a result, it is all of the course, and the result is the outcome; and it
comes to a result whenever its tasks come to their end. -/
theorem run_undisturbed {credentials : Credentials} {before : List (Exchange World)}
    (h : Asks ((run credentials config).run m) before accept.call)
    (downloads : Nat → Except FetchError Image × Nat) (now : Nat) :
    ∃ course outcome m',
      (∀ rest, Began ((run credentials config).run m) (before ++ accept :: rest.map untimed) →
        (clock downloads).Expected (.showing now) rest → timeline rest <+: course) ∧
      (∀ rest result m'',
        Runs ((run credentials config).run m) (before ++ accept :: rest.map untimed)
          (result, m'') →
        (clock downloads).Expected (.showing now) rest →
        timeline rest = course ∧ result = .ok outcome ∧ m'' = m') ∧
      ∀ k : Continuation, k.KeepsTime downloads now → Patient k.answer →
        ∃ rest, Answered k.answer [] (rest.map untimed) rest ∧ timeline rest = course ∧
          Runs ((run credentials config).run m) (before ++ accept :: rest.map untimed)
            (.ok outcome, m') := by
  have hkeeps := run_keeps credentials config m
  obtain ⟨m₁, plan, hplan⟩ := exists_plan h
  -- The calls after the trigger keep to the plan that is made then.
  have hline {rest : List (Exchange Timed)}
      (hbegan : Began ((run credentials config).run m) (before ++ accept :: rest.map untimed))
      (htime : (clock downloads).Expected (.showing now) rest) :
      ∃ plan', (watch credentials.deviceId config.retry.interval).after ⟨m, .waiting none⟩
          (before ++ accept :: rest.map untimed) = ⟨moves m₁ (timeline rest), .updating plan'⟩ ∧
        plan.line downloads (.showing now) = (timeline rest ++
          (plan'.line downloads ((clock downloads).after (.showing now) rest)).1,
          (plan'.line downloads ((clock downloads).after (.showing now) rest)).2) := by
    have hlawful := hkeeps.lawful hbegan (Monitor.expected_of_forall fun _ _ => trivial)
    rw [List.append_cons] at hlawful ⊢
    rw [Monitor.after_append, hplan]
    have hrest := (Monitor.lawful_append.mp hlawful).2
    rw [hplan] at hrest
    exact line_of_lawful hrest htime
  -- A result is come to when nothing of the plan is left to do.
  have hended {rest : List (Exchange Timed)} {result : Except Error Outcome} {m'' : Machine}
      (hruns : Runs ((run credentials config).run m) (before ++ accept :: rest.map untimed)
        (result, m''))
      (htime : (clock downloads).Expected (.showing now) rest) :
      timeline rest = (plan.line downloads (.showing now)).1 ∧
        result = .ok (plan.line downloads (.showing now)).2 ∧
        m'' = moves m₁ (plan.line downloads (.showing now)).1 := by
    obtain ⟨plan', hafter, hline⟩ := hline hruns.began htime
    have hend := hkeeps.runs _ _ hruns (Monitor.expected_of_forall fun _ _ => trivial)
    rw [hafter] at hend
    cases result with
    | ok outcome =>
      obtain ⟨hmoves, hstage⟩ := Outlook.mk.inj hend
      cases hstage
      rw [hline]
      simp [Plan.line, hmoves]
    | error error =>
      obtain ⟨heard, heq⟩ := hend
      cases heq
  refine ⟨(plan.line downloads (.showing now)).1, (plan.line downloads (.showing now)).2,
    moves m₁ (plan.line downloads (.showing now)).1, ?_, ?_, ?_⟩
  · intro rest hbegan htime
    obtain ⟨plan', -, hline⟩ := hline hbegan htime
    rw [hline]
    exact List.prefix_append ..
  · intro rest result m'' hruns htime
    exact hended hruns htime
  · intro k htime hpatient
    obtain ⟨link, url, m₂, hstate, hbudget, hruns⟩ := run_accepts h
    obtain ⟨made, ⟨outcome, m'⟩, past, hmade, hanswered, -⟩ :=
      goOn_returns (w := ([] : List (Exchange Timed))) hpatient hstate hbudget
    have hclosed : Answered k.answer past [⟨.close link, ()⟩]
        (past ++ [⟨.close link, k past (.close link)⟩]) :=
      .cons rfl (.nil _)
    have hall := hanswered.append hclosed
    obtain ⟨rest, hpast, hmade', hexpected⟩ := Continuation.exists_of_answered htime hall trivial
    rw [List.nil_append] at hpast
    rw [hpast] at hall hexpected
    have hrun := hruns made outcome m' hmade
    rw [hmade'] at hrun hall
    obtain ⟨hcourse, hresult, rfl⟩ := hended hrun hexpected
    cases hresult
    exact ⟨rest, hall, hcourse, hrun⟩

namespace Continuation

/-- A call that waits for a task. -/
def isTurn : Exchange Timed → Bool
  | ⟨.turn .., _⟩ => true
  | _ => false

/-- How things go on over a broken connection: nothing that the bus is asked comes off. When the
first task has just started, a message or the loss is heard, and nothing after it. -/
def broken (downloads : Nat → Except FetchError Image × Nat) (now : Nat)
    (event : Except BusError Message) : Continuation := fun past c =>
  let k := (clock downloads).after (.showing now) past
  let error : BusError := .connectionLost "connection reset"
  match c with
  | .turn task _ =>
    if k.now ≤ k.due ∧ ¬ past.any isTurn then
      (k.now, match event with
        | .ok message => .heard message
        | .error error => .lost error)
    else (k.due, .over (k.task downloads task).1)
  | .now => (k.now, k.now)
  | .pause _ | .close _ | .start _ | .announce _ => (k.now, ())
  | .load => (k.now, .ok none)
  | .store _ => (k.now, .ok ())
  | .connect _ | .subscribe .. | .unsubscribe .. | .publish .. | .receive _ | .receiveBy .. =>
    (k.now, .error error)

variable {downloads : Nat → Except FetchError Image × Nat} {now : Nat}
  {event : Except BusError Message}

theorem broken_keepsTime : (broken downloads now event).KeepsTime downloads now := by
  intro past _ c
  cases c with
  | turn task listening =>
    unfold broken
    dsimp only
    split
    · rename_i h
      cases event with
      | ok message => exact ⟨Nat.le_refl _, h.1⟩
      | error error => exact ⟨Nat.le_refl _, h.1⟩
    · exact ⟨rfl, rfl⟩
  | _ => rfl

theorem broken_patient : Patient (broken downloads now event).answer := by
  -- After the first turn every task is over at once.
  have hlater {task : Task} {past : List (Exchange Timed)} (hturn : past.any isTurn) :
      Ends (broken downloads now event).answer task past := by
    constructor
    intro listening r past' hr hne
    simp only [answer, broken, hturn, not_true, and_false, if_false, Prod.mk.injEq,
      Option.some.injEq] at hr
    exact absurd hr.1.symm (hne _)
  refine ⟨fun c past => ⟨_, _, rfl⟩, fun task past => ?_⟩
  constructor
  intro listening r past' hr hne
  refine hlater ?_
  obtain ⟨-, rfl⟩ := Prod.mk.inj hr
  simp [isTurn]

end Continuation

/-- Accepting a trigger, among other calls. -/
def isAccept : Exchange World → Bool
  | ⟨.announce state, _⟩ => state = .downloading 0
  | _ => false

/-- The downloads of the rehearsal. -/
def rehearsalDownloads : Nat → Except FetchError Image × Nat
  | 0 => (.error (.status 503), 5)
  | _ => (.ok ⟨"/staged", 7, "digest"⟩, 0)

/-- Whatever is heard over the connection that breaks, the update goes the same course. -/
theorem run_undisturbed_rehearsed :
    ∃ before, Asks rehearsed before accept.call ∧ ∃ course outcome m',
      ∀ event, ∃ rest,
        Answered (Continuation.broken rehearsalDownloads 0 event).answer [] (rest.map untimed)
          rest ∧
        timeline rest = course ∧
        Runs rehearsed (before ++ accept :: rest.map untimed) (.ok outcome, m') := by
  have hend : (rehearsed.run Bench.answer.recorded 8 (rehearsal, [])).1 =
      some (.ok (.updated ⟨"/staged", 7, "digest"⟩), rehearsalEnd) := by
    decide +kernel
  have haccepts : (rehearsed.run Bench.answer.recorded 8 (rehearsal, [])).2.2.any isAccept := by
    decide +kernel
  obtain ⟨hruns, -⟩ := runs_of_run hend
  obtain ⟨⟨c, r⟩, hmem, haccept⟩ := List.any_eq_true.mp haccepts
  obtain ⟨before, after, htrace⟩ := List.append_of_mem hmem
  have hasks := hruns.asks htrace
  cases c with
  | announce state =>
    obtain rfl : state = .downloading 0 := of_decide_eq_true haccept
    obtain ⟨course, outcome, m', -, -, hreturns⟩ := run_undisturbed hasks rehearsalDownloads 0
    refine ⟨before, hasks, course, outcome, m', fun event => ?_⟩
    exact hreturns _ Continuation.broken_keepsTime Continuation.broken_patient
  | _ => cases haccept

end UpdateAgent.Update
