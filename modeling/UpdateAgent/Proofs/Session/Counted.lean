import UpdateAgent.Proofs.Machine.Progress
import UpdateAgent.Proofs.Monitor
import UpdateAgent.Proofs.Session.Update

/-!
# Attempts are counted without overflow

A session starts a fetch only while the machine downloads, and then with an attempt that the budget
allows (`run_counted`), so the count of attempts that the session keeps does not wrap. Together with
the progress of the machine under any events (`moves_forward`) this is all that the budget is for.
-/

namespace UpdateAgent

open Program Trace

namespace Update

variable {deviceId url : String} {config : Config} {link : Link} {m : Machine}
  {budget : UInt32} {s : Machine.State}

/-- Follows the states of the machine, and allows a fetch only as an attempt within the budget. -/
def counted (budget : UInt32) : Monitor World Machine.State where
  step state e := (announced? e).getD state
  Allows state
    | .start (.fetch _) => ∃ attempt, state = .downloading attempt ∧ attempt < budget
    | _ => True

/-- The state after some calls is the last that the watchers were told of. -/
theorem counted_after (budget : UInt32) (state : Machine.State) (trace : List (Exchange World)) :
    (counted budget).after state trace = (states trace).getLastD state := by
  induction trace generalizing state with
  | nil => rfl
  | cons e trace ih =>
    rw [Monitor.after_cons, ih]
    show (states trace).getLastD ((announced? e).getD state) = _
    cases h : announced? e with
    | none =>
      have hstates : states (e :: trace) = states trace := List.filterMap_cons_none h
      rw [hstates, Option.getD_none]
    | some state' =>
      have hstates : states (e :: trace) = state' :: states trace := List.filterMap_cons_some h
      rw [hstates, List.getLastD_cons, Option.getD_some]

/-- The machine is sound, and in the state that its watchers were told of. -/
structure Told (budget : UInt32) (m : Machine) (s : Machine.State) : Prop where
  state : s = m.state
  budget : m.budget = budget
  sound : m.Sound

/-- It downloads. -/
def Downloads (budget : UInt32) (m : Machine) (s : Machine.State) : Prop :=
  Told budget m s ∧ ∃ attempt, m.state = .downloading attempt

/-- Such a machine may start a fetch. -/
theorem Downloads.allows (h : Downloads budget m s) (url : String) :
    (counted budget).Allows s (.start (.fetch url)) := by
  obtain ⟨htold, attempt, hstate⟩ := h
  refine ⟨attempt, htold.state.trans hstate, ?_⟩
  rw [← htold.budget]
  exact htold.sound.within attempt hstate

/-- The watchers of a machine are told of whatever becomes of it. -/
theorem Told.handle (h : Told budget m s) (event : Machine.Event) :
    Told budget (m.handle event).2
      ((counted budget).after s (m.handle event).1.announcement) := by
  refine ⟨?_, (m.handle_budget event).trans h.budget, h.sound.handle event⟩
  rcases m.handle_cases event with ⟨target, -, hmoved⟩ | hignored
  · rw [hmoved]
    rfl
  · rw [hignored]
    exact h.state

theorem handle_told (h : Told budget m s) (event : Machine.Event) :
    Session.Obeys (counted budget) m s (Session.handle event) fun t m' s' =>
      (t, m') = m.handle event ∧ Told budget m' s' := by
  apply Session.obeys_handle
  · intro _ _ _
    trivial
  · intro _
    exact ⟨rfl, h.handle event⟩

theorem tell_told (h : Told budget m s) (event : Machine.Event) :
    Session.Obeys (counted budget) m s (discard (Session.handle event)) fun _ m' s' =>
      m' = (m.handle event).2 ∧ Told budget m' s' := by
  refine Session.obeys_discard ((handle_told h event).mono ?_)
  rintro t m' s' ⟨heq, htold⟩
  exact ⟨congrArg Prod.snd heq, htold⟩

/-- A report changes nothing of this. -/
theorem report_bind_counted {α : Type} {report : StatusReport} {f : Unit → Session α}
    {Q : α → Machine → Machine.State → Prop} (hf : Session.Obeys (counted budget) m s (f ()) Q) :
    Session.Obeys (counted budget) m s
      (liftM (Update.report deviceId link report) >>= f) Q := by
  have hreport : (counted budget).Obeys s (Update.report deviceId link report)
      fun _ s' => s' = s :=
    Monitor.obeys_discard (Monitor.obeys_request trivial fun _ _ => rfl)
  refine Session.obeys_lift_bind hreport ?_
  rintro _ _ rfl
  exact hf

/-- Whatever is heard meanwhile, the machine goes on downloading. -/
theorem drainTurn_told (h : Downloads budget m s) (task : Task) (isAlive : Bool) :
    Session.Obeys (counted budget) m s (drainTurn deviceId link task isAlive)
      fun _ => Downloads budget := by
  refine Session.obeys_request_bind trivial ?_
  intro r _
  match r with
  | .over result => exact Session.obeys_pure h
  | .lost error => exact Session.obeys_pure h
  | .heard message =>
    obtain ⟨htold, attempt, hstate⟩ := h
    show Session.Obeys _ m s _ _
    dsimp only
    split
    · split
      · refine Session.obeys_bind (tell_told htold _) ?_
        rintro _ m' s' ⟨rfl, htold'⟩
        rw [Machine.handle_trigger_downloading hstate] at htold' ⊢
        exact Session.obeys_pure ⟨htold', attempt, hstate⟩
      · exact Session.obeys_pure ⟨htold, attempt, hstate⟩
    · exact Session.obeys_pure ⟨htold, attempt, hstate⟩

theorem drain_told (h : Downloads budget m s) {task : Task}
    (htask : (counted budget).Allows s (.start task)) (isAlive : Bool) :
    Session.Obeys (counted budget) m s (drain deviceId link isAlive task)
      fun _ => Downloads budget := by
  refine Session.obeys_request_bind htask ?_
  intro _ _
  refine Session.obeys_iterate (fun _ => Downloads budget) h ?_
  intro isAlive m s h
  refine (drainTurn_told h task isAlive).mono ?_
  intro n m' s' h'
  cases n <;> exact h'

/-- An attempt that is followed by another has taken the machine on to it. -/
theorem superviseTurn_told (h : Downloads budget m s) (isAlive : Bool) :
    Session.Obeys (counted budget) m s (superviseTurn deviceId config link url isAlive) fun
      | .again _ => Downloads budget
      | .finish _ => Told budget := by
  refine Session.obeys_get_bind (Session.obeys_bind (drain_told h (h.allows url) isAlive) ?_)
  rintro ⟨result, alive⟩ m₁ s₁ ⟨h₁, attempt, hstate⟩
  cases result with
  | ok image =>
    refine Session.obeys_bind (tell_told h₁ _) ?_
    rintro _ m₂ s₂ ⟨-, h₂⟩
    exact report_bind_counted (report_bind_counted (Session.obeys_pure h₂))
  | error error =>
    refine Session.obeys_bind (tell_told h₁ _) ?_
    rintro _ m₂ s₂ ⟨rfl, h₂⟩
    refine Session.obeys_get_bind ?_
    split
    case isTrue => exact report_bind_counted (Session.obeys_pure h₂)
    case isFalse hgo =>
      -- The machine has not given up, so it counts another attempt.
      have hlt : attempt + 1 < m₁.budget := by
        by_contra hspent
        rw [Machine.handle_fetchFailed_of_not_lt hstate hspent] at hgo
        exact hgo rfl
      have hnext : Downloads budget (m₁.handle .fetchFailed).2 s₂ := by
        refine ⟨h₂, attempt + 1, ?_⟩
        rw [Machine.handle_fetchFailed_of_lt hstate hlt, Machine.moveTo_state]
      have hwait : (counted budget).Allows s₂ (.start (.wait config.retry.interval)) := trivial
      refine Session.obeys_bind (drain_told hnext hwait alive) fun _ m₃ s₃ h₃ => ?_
      exact Session.obeys_pure h₃

theorem supervise_told (h : Downloads budget m s) :
    Session.Obeys (counted budget) m s (supervise deviceId config link url)
      fun _ => Told budget := by
  refine Session.obeys_iterate (fun _ => Downloads budget) h ?_
  intro isAlive m s h
  refine (superviseTurn_told h isAlive).mono ?_
  intro n m' s' h'
  cases n <;> exact h'

theorem takeMessage_told (h : Told budget m s) (message : Message) :
    Session.Obeys (counted budget) m s (takeMessage deviceId config link message)
      fun _ => Told budget := by
  rw [takeMessage]
  split
  · exact Session.obeys_pure h
  · split
    · exact Session.obeys_pure h
    · refine Session.obeys_bind (handle_told h _) ?_
      rintro t m₁ s₁ ⟨heq, h₁⟩
      rcases m.handle_cases .triggerAccepted with ⟨target, hmove, hmoved⟩ | hignored
      · -- A trigger that counts begins the download.
        obtain ⟨-, rfl⟩ := hmove.of_trigger
        rw [hmoved] at heq
        cases heq
        have hdownloads : Downloads budget (m.moveTo (.downloading 0)) s₁ :=
          ⟨h₁, 0, Machine.moveTo_state ..⟩
        refine report_bind_counted (Session.obeys_bind (supervise_told hdownloads) ?_)
        intro outcome m₂ s₂ h₂
        exact Session.obeys_pure h₂
      · rw [hignored] at heq
        cases heq
        exact Session.obeys_pure h₁

theorem serveTurn_told (h : Told budget m s) :
    Session.Obeys (counted budget) m s (serveTurn deviceId config link) fun _ => Told budget := by
  refine Session.obeys_request_bind trivial ?_
  intro r _
  cases r with
  | error error => exact Session.obeys_pure h
  | ok message =>
    refine Session.obeys_bind (takeMessage_told h message) ?_
    intro taken m₁ s₁ h₁
    cases taken <;> exact Session.obeys_pure h₁

theorem serve_told (h : Told budget m s) :
    Session.Obeys (counted budget) m s (serve deviceId config link) fun _ => Told budget := by
  refine Session.obeys_request_bind trivial ?_
  intro r _
  cases r with
  | error error => exact Session.obeys_pure h
  | ok =>
    refine Session.obeys_request_bind trivial ?_
    intro r _
    cases r with
    | error error => exact Session.obeys_pure h
    | ok =>
      refine Session.obeys_bind (tell_told h _) ?_
      rintro _ m₁ s₁ ⟨-, h₁⟩
      refine Session.obeys_iterate (fun _ => Told budget) h₁ ?_
      intro _ m s h
      refine (serveTurn_told h).mono ?_
      intro n m' s' h'
      cases n <;> exact h'

theorem run_told (h : Told budget m s) (credentials : Credentials) (config : Config) :
    Session.Obeys (counted budget) m s (run credentials config) fun _ => Told budget := by
  refine Session.obeys_get_bind ?_
  split
  · exact Session.obeys_pure h
  · split
    · exact Session.obeys_pure h
    · refine Session.obeys_request_bind trivial ?_
      intro r _
      cases r with
      | error error => exact Session.obeys_pure h
      | ok link =>
        refine Session.obeys_bind (serve_told h) ?_
        intro result m₁ s₁ h₁
        exact Session.obeys_request_bind trivial fun _ _ => Session.obeys_pure h₁

/-- Whenever a session starts a fetch, its machine downloads, and counts an attempt that the budget
allows. -/
theorem run_counted (h : m.Sound) {credentials : Credentials} {trace : List (Exchange World)}
    (hasks : Asks ((run credentials config).run m) trace (.start (.fetch url))) :
    ∃ attempt, (states trace).getLastD m.state = .downloading attempt ∧ attempt < m.budget := by
  have hobeys := run_told ⟨rfl, rfl, h⟩ credentials config
  have hallows := hobeys.asks _ _ hasks (Monitor.expected_of_forall fun _ _ => trivial)
  rw [counted_after] at hallows
  exact hallows

end Update

namespace Machine

variable {m : Machine} {budget : UInt32} {events : List Event}

/-- A machine of whatever budget, after any events. Each further event moves it on in the order of
the states and tells its watchers once, or is ignored, and then changes nothing. Its watchers see
its state, and it never leaves a terminal one. An attempt is below the budget, so the next one can
be counted, where the machine moves on, where its state is shown and where a session starts a fetch.
Four moves and one for each download are the most that there are. -/
theorem moves_forward (hmade : Made budget m) (events : List Event) :
    (m.handles events).budget = max budget 1 ∧
    (m.handles events).watched.value = (m.handles events).state ∧
    (∀ event, (∃ target,
        (m.handles events).handle event =
          (.moved (m.handles events).state target, (m.handles events).moveTo target) ∧
        (m.handles events).state.rank UInt32.size < target.rank UInt32.size) ∨
      (m.handles events).handle event =
        (.ignored (m.handles events).state event, m.handles events)) ∧
    (∀ attempt, (m.handles events).state = .downloading attempt →
      attempt < max budget 1 ∧ (attempt + 1).toNat = attempt.toNat + 1 ∧
        (m.handles events).state.text =
          "downloading (attempt " ++ toString (attempt.toNat + 1) ++ ")") ∧
    ((m.handles events).state.isTerminal → ∀ more,
      (m.handles events).handles more = m.handles events) ∧
    m.moves events ≤ 4 + (max budget 1).toNat ∧
    ∀ credentials config trace url,
      Asks ((Update.run credentials config).run (m.handles events)) trace (.start (.fetch url)) →
      ∃ attempt, (states trace).getLastD (m.handles events).state = .downloading attempt ∧
        attempt < max budget 1 ∧ (attempt + 1).toNat = attempt.toNat + 1 := by
  have hsound := hmade.sound.handles events
  have hbudget : (m.handles events).budget = max budget 1 := by
    rw [handles_budget, hmade.budget_eq]
  refine ⟨hbudget, hsound.watched, ?_, ?_, ?_, ?_, ?_⟩
  · intro event
    rcases (m.handles events).handle_cases event with ⟨target, hmove, hmoved⟩ | hignored
    · exact .inl ⟨target, hmoved, hmove.rank_lt hsound.within (Nat.le_of_lt (UInt32.toNat_lt _))⟩
    · exact .inr hignored
  · intro attempt hstate
    have hlt := hsound.within attempt hstate
    rw [hbudget] at hlt
    rw [hstate]
    exact ⟨hlt, toNat_next_attempt hlt, State.text_downloading hlt⟩
  · intro hterminal more
    exact handles_of_isTerminal hterminal more
  · have hmoves := moves_le hmade.sound events
    rw [hmade.budget_eq] at hmoves
    exact hmoves
  · intro credentials config trace url hasks
    obtain ⟨attempt, hstate, hlt⟩ := Update.run_counted hsound hasks
    have hnext := toNat_next_attempt hlt
    rw [hbudget] at hlt
    exact ⟨attempt, hstate, hlt, hnext⟩

/-- A device with the least budget that fails to download makes all the moves that there can be, and
is told in vain of a trigger after that. -/
theorem moves_forward_least :
    (new 0).moves [.registrationStarted, .registrationAccepted, .subscribed, .triggerAccepted,
        .fetchFailed, .triggerAccepted] = 5 ∧
      (new 0).moves [.registrationStarted, .registrationAccepted, .subscribed, .triggerAccepted,
        .fetchFailed, .triggerAccepted] ≤ 4 + (max (0 : UInt32) 1).toNat := by
  obtain ⟨-, -, -, -, -, hmoves, -⟩ := moves_forward (.new : Made 0 (new 0))
    [.registrationStarted, .registrationAccepted, .subscribed, .triggerAccepted, .fetchFailed,
      .triggerAccepted]
  exact ⟨by decide, hmoves⟩

end Machine

end UpdateAgent
