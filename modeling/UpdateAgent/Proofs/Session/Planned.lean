import UpdateAgent.Proofs.Session.Plan

/-!
# Updates go as planned

From the trigger on a session does what the plan of its update says. Every part of it does its part
of the plan (`Keeps`), whatever the bus replies.
-/

namespace UpdateAgent.Update

open Program Trace

variable {deviceId url : String} {config : Config} {link : Link} {m : Machine} {α β : Type}

/-! ## Keeping to the plan -/

/-- The session does this part of the plan of its update when its machine is `m`. -/
abbrev Keeps (deviceId : String) (interval : Nat) (m : Machine) (plan : Plan) (x : Session α)
    (Q : α → Machine → Outlook → Prop) : Prop :=
  Session.Obeys (watch deviceId interval) m ⟨m, .updating plan⟩ x Q

section

variable {interval : Nat} {rest : Plan} {Q : β → Machine → Outlook → Prop}

/-- A report goes on with the plan, whether or not the bus takes it. -/
theorem report_keeps {r : StatusReport} {f : Unit → Session β}
    (hf : Keeps deviceId interval m rest (f ()) Q) :
    Keeps deviceId interval m (.report deviceId r rest) (liftM (report deviceId link r) >>= f)
      Q := by
  have hreport : (watch deviceId interval).Obeys ⟨m, .updating (.report deviceId r rest)⟩
      (report deviceId link r) fun _ s => s = ⟨m, .updating rest⟩ :=
    Monitor.obeys_discard (Monitor.obeys_request ⟨rest, rfl⟩ fun _ _ => rfl)
  refine Session.obeys_lift_bind hreport ?_
  rintro _ _ rfl
  exact hf

/-- So does an event that moves the machine as planned. -/
theorem tell_keeps {event : Machine.Event} {target : Machine.State} {f : Unit → Session β}
    (hmove : m.handle event = (.moved m.state target, m.moveTo target))
    (htarget : target ≠ .downloading 0)
    (hf : Keeps deviceId interval (m.moveTo target) rest (f ()) Q) :
    Keeps deviceId interval m (.act (.moved target) rest)
      (discard (Session.handle event) >>= f) Q := by
  refine Session.obeys_tell_bind ?_ fun _ => ?_
  · intro source target' hmoved
    rw [hmove] at hmoved
    cases hmoved
    exact ⟨htarget, rest, rfl⟩
  · rw [hmove]
    exact hf

/-- While the machine downloads, nothing that is heard moves it or changes the plan. -/
theorem drainTurn_keeps {a : UInt32} (hstate : m.state = .downloading a) {task : Task}
    {rest : task.Result → Plan} {isAlive : Bool} :
    Keeps deviceId interval m (.await task rest) (drainTurn deviceId link task isAlive) fun
      | .again _ => fun m' s => m' = m ∧ s = ⟨m, .updating (.await task rest)⟩
      | .finish (result, _) => fun m' s => m' = m ∧ s = ⟨m, .updating (rest result)⟩ := by
  refine Session.obeys_request_bind ⟨rest, rfl⟩ fun r _ => ?_
  match r with
  | .over result =>
    refine Session.obeys_pure ⟨rfl, ?_⟩
    show (⟨m, .updating (Plan.next (.await task rest) (.ended task result))⟩ : Outlook) = _
    rw [Plan.next_await]
  | .lost error => exact Session.obeys_pure ⟨rfl, rfl⟩
  | .heard message =>
    show Keeps deviceId interval m (.await task rest) _ _
    dsimp only
    split
    · split
      · -- A trigger comes to the machine, which ignores it.
        refine Session.obeys_tell_bind ?_ fun _ => ?_
        · intro source target hmoved
          rw [Machine.handle_trigger_downloading hstate] at hmoved
          cases hmoved
        · rw [Machine.handle_trigger_downloading hstate]
          exact Session.obeys_pure ⟨rfl, rfl⟩
      · exact Session.obeys_pure ⟨rfl, rfl⟩
    · exact Session.obeys_pure ⟨rfl, rfl⟩

/-- A task goes on with the plan when it is over. -/
theorem drain_keeps {a : UInt32} (hstate : m.state = .downloading a) {task : Task}
    {rest : task.Result → Plan} {isAlive : Bool} {f : task.Result × Bool → Session β}
    (hf : ∀ result alive, Keeps deviceId interval m (rest result) (f (result, alive)) Q) :
    Keeps deviceId interval m (.perform task rest) (drain deviceId link isAlive task >>= f) Q := by
  have hdrain : Keeps deviceId interval m (.perform task rest) (drain deviceId link isAlive task)
      fun p m' s => m' = m ∧ s = ⟨m, .updating (rest p.1)⟩ := by
    refine Session.obeys_request_bind ⟨_, rfl⟩ fun _ _ => ?_
    refine Session.obeys_iterate
      (fun _ m' s => m' = m ∧ s = ⟨m, .updating (.await task rest)⟩) ⟨rfl, rfl⟩ ?_
    rintro alive _ _ ⟨rfl, rfl⟩
    refine (drainTurn_keeps hstate).mono fun n m' s h => ?_
    cases n <;> exact h
  refine Session.obeys_bind hdrain ?_
  rintro ⟨result, alive⟩ _ _ ⟨rfl, rfl⟩
  exact hf result alive

end

/-- A machine that downloads has this to do: the attempt under way, and those that its budget leaves
after it. -/
def Attempting (deviceId url : String) (interval : Nat) (m : Machine) (s : Outlook) : Prop :=
  ∃ a left, m.state = .downloading a ∧ a.toNat + 1 + left = m.budget.toNat ∧
    s = ⟨m, .updating (.attempts deviceId url interval left a)⟩

/-- An attempt is what the plan says, and so is what comes of it. -/
theorem superviseTurn_keeps {s : Outlook} {isAlive : Bool}
    (h : Attempting deviceId url config.retry.interval m s) :
    Session.Obeys (watch deviceId config.retry.interval) m s
      (superviseTurn deviceId config link url isAlive) fun
      | .again _ => Attempting deviceId url config.retry.interval
      | .finish outcome => fun m' s' => s' = ⟨m', .updating (.finish outcome)⟩ := by
  obtain ⟨a, left, hstate, hcount, rfl⟩ := h
  have hlt : a < m.budget := UInt32.lt_iff_toNat_lt.mpr (by omega)
  have hnext := Machine.toNat_next_attempt hlt
  refine Session.obeys_get_bind ?_
  rw [Plan.attempts]
  refine drain_keeps hstate fun result alive => ?_
  cases result with
  | ok image =>
    refine tell_keeps (Machine.handle_fetchSucceeded hstate) nofun ?_
    exact report_keeps (report_keeps (Session.obeys_pure rfl))
  | error error =>
    -- The machine counts the attempts as the plan does.
    cases left with
    | zero =>
      have hspent : ¬ a + 1 < m.budget := by
        rw [UInt32.lt_iff_toNat_lt]
        omega
      refine tell_keeps (Machine.handle_fetchFailed_of_not_lt hstate hspent) nofun ?_
      refine Session.obeys_get_bind ?_
      rw [if_pos (Machine.moveTo_state ..)]
      refine report_keeps (Session.obeys_pure ?_)
      rw [hstate]
      rfl
    | succ left =>
      have hless : a + 1 < m.budget := by
        rw [UInt32.lt_iff_toNat_lt]
        omega
      have hne : Machine.State.downloading (a + 1) ≠ .downloading 0 := by
        intro h
        rw [Machine.State.downloading.inj h] at hnext
        cases hnext
      refine tell_keeps (Machine.handle_fetchFailed_of_lt hstate hless) hne ?_
      refine Session.obeys_get_bind ?_
      have hgo : (m.moveTo (.downloading (a + 1))).state ≠ .failed := by simp
      rw [if_neg hgo]
      refine drain_keeps (Machine.moveTo_state ..) fun _ alive' => Session.obeys_pure ?_
      refine ⟨a + 1, left, rfl, ?_, rfl⟩
      rw [hnext, Machine.moveTo_budget]
      omega

theorem supervise_keeps {s : Outlook} (h : Attempting deviceId url config.retry.interval m s) :
    Session.Obeys (watch deviceId config.retry.interval) m s
      (supervise deviceId config link url) fun outcome m' s' =>
        s' = ⟨m', .updating (.finish outcome)⟩ := by
  refine Session.obeys_iterate (fun _ => Attempting deviceId url config.retry.interval) h ?_
  intro isAlive m s h
  refine (superviseTurn_keeps h).mono fun n m' s' h' => ?_
  cases n <;> exact h'

/-- The plan is what a machine does that has just begun to download. -/
theorem goOn_keeps (hstate : m.state = .downloading 0) (hbudget : 0 < m.budget) :
    Keeps deviceId config.retry.interval m
      (planned deviceId url config.retry.interval m.budget) (goOn deviceId config link url)
      fun outcome m' s' => s' = ⟨m', .updating (.finish outcome)⟩ := by
  have hpos : 0 < m.budget.toNat := UInt32.lt_iff_toNat_lt.mp hbudget
  refine report_keeps (supervise_keeps ⟨0, m.budget.toNat - 1, hstate, ?_, rfl⟩)
  show 0 + 1 + (m.budget.toNat - 1) = m.budget.toNat
  omega

/-! ## The whole session -/

/-- How a session leaves its outlook: after an outcome, nothing of the plan is left to do. -/
def Ended (result : Except Error Outcome) (m : Machine) (s : Outlook) : Prop :=
  match result with
  | .ok outcome => s = ⟨m, .updating (.finish outcome)⟩
  | .error _ => ∃ heard, s = ⟨m, .waiting heard⟩

/-- A machine awaits a trigger. -/
structure Awaiting (m : Machine) (s : Outlook) : Prop where
  state : m.state = .awaitingTrigger
  budget : 0 < m.budget
  stage : ∃ heard, s = ⟨m, .waiting heard⟩

/-- It still does after a message, or the update has come to its end. -/
def Taken : Option Outcome → Machine → Outlook → Prop
  | none => Awaiting
  | some outcome => Ended (.ok outcome)

theorem takeMessage_obeys (hstate : m.state = .awaitingTrigger) (hbudget : 0 < m.budget)
    (message : Message) :
    Session.Obeys (watch deviceId config.retry.interval) m ⟨m, .waiting (some message)⟩
      (takeMessage deviceId config link message) Taken := by
  cases htrigger : trigger? deviceId message with
  | none =>
    rw [takeMessage_of_none htrigger]
    exact Session.obeys_pure ⟨hstate, hbudget, _, rfl⟩
  | some url =>
    unfold Session.Obeys
    rw [takeMessage_run hstate htrigger]
    refine Monitor.obeys_request_bind trivial fun _ _ => ?_
    -- This is where the session makes its plan.
    have hplan : (watch deviceId config.retry.interval).step ⟨m, .waiting (some message)⟩
        ⟨.announce (.downloading 0), ()⟩ = ⟨m.moveTo (.downloading 0),
          .updating (planned deviceId url config.retry.interval m.budget)⟩ := by
      simp [watch, Outlook.step, htrigger]
    rw [hplan]
    show Session.Obeys _ _ _ (goOn deviceId config link url >>= _) Taken
    refine Session.obeys_bind (goOn_keeps (Machine.moveTo_state ..) hbudget) ?_
    intro outcome m' s' h'
    exact Session.obeys_pure h'

theorem serveTurn_obeys {s : Outlook} (h : Awaiting m s) :
    Session.Obeys (watch deviceId config.retry.interval) m s (serveTurn deviceId config link) fun
      | .again _ => Awaiting
      | .finish result => Ended result := by
  obtain ⟨hstate, hbudget, heard, rfl⟩ := h
  refine Session.obeys_request_bind trivial fun r _ => ?_
  cases r with
  | error error => exact Session.obeys_pure ⟨heard, rfl⟩
  | ok message =>
    refine Session.obeys_bind (takeMessage_obeys hstate hbudget message) fun taken m' s' h' => ?_
    cases taken <;> exact Session.obeys_pure h'

theorem serve_obeys (hstate : m.state = .registered) (hbudget : 0 < m.budget)
    {heard : Option Message} :
    Session.Obeys (watch deviceId config.retry.interval) m ⟨m, .waiting heard⟩
      (serve deviceId config link) Ended := by
  refine Session.obeys_request_bind trivial fun r _ => ?_
  cases r with
  | error error => exact Session.obeys_pure ⟨heard, rfl⟩
  | ok =>
    refine Session.obeys_request_bind trivial fun r _ => ?_
    cases r with
    | error error => exact Session.obeys_pure ⟨heard, rfl⟩
    | ok =>
      refine Session.obeys_tell_bind (fun _ _ _ => trivial) fun _ => ?_
      rw [Machine.handle_subscribed hstate]
      refine Session.obeys_iterate (fun _ => Awaiting) ⟨rfl, hbudget, heard, rfl⟩ ?_
      intro _ m s h
      refine (serveTurn_obeys h).mono fun n m' s' h' => ?_
      cases n <;> exact h'

/-- From beginning to end, a session keeps to the plan of its update, once it has one. -/
theorem run_keeps (credentials : Credentials) (config : Config) (m : Machine) :
    Session.Obeys (watch credentials.deviceId config.retry.interval) m ⟨m, .waiting none⟩
      (run credentials config) Ended := by
  refine Session.obeys_get_bind ?_
  split
  · exact Session.obeys_pure ⟨none, rfl⟩
  · rename_i hstate
    split
    · exact Session.obeys_pure ⟨none, rfl⟩
    · rename_i hattempts
      refine Session.obeys_request_bind trivial fun r _ => ?_
      cases r with
      | error error => exact Session.obeys_pure ⟨none, rfl⟩
      | ok link =>
        have hbudget : 0 < m.budget := by
          rw [← not_not.mp hattempts]
          exact Machine.new_budget_pos config.retry.maxAttempts
        refine Session.obeys_bind (serve_obeys (not_not.mp hstate) hbudget) ?_
        intro result m' s' h'
        cases result with
        | ok outcome =>
          obtain rfl : s' = ⟨m', .updating (.finish outcome)⟩ := h'
          exact Session.obeys_request_bind ⟨outcome, rfl⟩ fun _ _ => Session.obeys_pure rfl
        | error error =>
          obtain ⟨heard, rfl⟩ := h'
          exact Session.obeys_request_bind trivial fun _ _ => Session.obeys_pure ⟨heard, rfl⟩

end UpdateAgent.Update
