import UpdateAgent.Proofs.Machine
import UpdateAgent.Proofs.Session.Trace
import UpdateAgent.Session.Update
import UpdateAgent.Bench.Basic

/-!
# The course of an update
-/

namespace UpdateAgent.Update

open Program Trace

variable {deviceId url : String} {config : Config} {link : Link} {m m' : Machine}
  {trace : List (Exchange World)}

/-- What a task that is over has done. -/
def taskDeeds : (task : Task) → task.Result → List Deed
  | .fetch url, result => [.fetching url, .fetched url result]
  | .wait _, _ => []

/-- A turn of draining leaves a downloading machine as it is, whatever is heard. It ends with the
task, and only then. -/
theorem drainTurn_spec {a : UInt32} (hstate : m.state = .downloading a) {task : Task}
    {isAlive : Bool} {n : Next Bool (task.Result × Bool)}
    (h : Runs ((drainTurn deviceId link task isAlive).run m) trace (n, m')) :
    m = m' ∧
      ((∃ stillAlive, n = .again stillAlive ∧ deeds trace = []) ∨
        ∃ listening result, n = .finish (result, isAlive) ∧
          trace = [⟨.turn task listening, .over result⟩]) := by
  obtain ⟨r, rest, hrest, rfl⟩ := Session.runs_request_bind.mp h
  match r, hrest with
  | .over result, hrest =>
    obtain ⟨rfl, rfl, rfl⟩ := Session.runs_pure.mp hrest
    exact ⟨rfl, .inr ⟨_, result, rfl, rfl⟩⟩
  | .lost error, hrest =>
    obtain ⟨rfl, rfl, rfl⟩ := Session.runs_pure.mp hrest
    exact ⟨rfl, .inl ⟨false, rfl, by cases task <;> rfl⟩⟩
  | .heard message, hrest =>
    have hquiet : n = .again isAlive ∧ m = m' ∧ rest = [] := by
      dsimp only at hrest
      split at hrest
      · split at hrest
        · -- The machine is told of a trigger, and has nothing to do with it.
          obtain ⟨_, hpure, rfl⟩ := Session.runs_tell_bind.mp hrest
          rw [Machine.handle_trigger_downloading hstate] at hpure ⊢
          obtain ⟨rfl, rfl, rfl⟩ := Session.runs_pure.mp hpure
          exact ⟨rfl, rfl, rfl⟩
        · obtain ⟨rfl, rfl, rfl⟩ := Session.runs_pure.mp hrest
          exact ⟨rfl, rfl, rfl⟩
      · obtain ⟨rfl, rfl, rfl⟩ := Session.runs_pure.mp hrest
        exact ⟨rfl, rfl, rfl⟩
    obtain ⟨rfl, rfl, rfl⟩ := hquiet
    exact ⟨rfl, .inl ⟨isAlive, rfl, by cases task <;> rfl⟩⟩

/-- However many messages are heard meanwhile, they leave no trace but their own. -/
theorem drainTurns_spec {task : Task} {s s' : Bool}
    (h : Session.Turns (drainTurn deviceId link task) s m trace s' m') {a : UInt32}
    (hstate : m.state = .downloading a) : m = m' ∧ deeds trace = [] := by
  induction h with
  | stay => exact ⟨rfl, rfl⟩
  | again this _ ih =>
    obtain ⟨rfl, ⟨_, heq, hthis⟩ | ⟨_, _, heq, _⟩⟩ := drainTurn_spec hstate this
    · obtain ⟨rfl, hrest⟩ := ih hstate
      exact ⟨rfl, by rw [deeds_append, hthis, hrest, List.append_nil]⟩
    · cases heq

/-- A task that is done while messages are drained does what it would have done alone. -/
theorem drain_spec {a : UInt32} (hstate : m.state = .downloading a) {task : Task}
    {isAlive stillAlive : Bool} {result : task.Result}
    (h : Runs ((drain deviceId link isAlive task).run m) trace ((result, stillAlive), m')) :
    m = m' ∧ deeds trace = taskDeeds task result := by
  obtain ⟨_, _, hloop, rfl⟩ := Session.runs_request_bind.mp h
  obtain ⟨before, _, _, last, hbefore, hlast, rfl⟩ := Session.exists_turns hloop
  obtain ⟨rfl, hdeeds⟩ := drainTurns_spec hbefore hstate
  obtain ⟨rfl, ⟨_, heq, _⟩ | ⟨_, _, heq, rfl⟩⟩ := drainTurn_spec hstate hlast
  · cases heq
  · cases heq
    refine ⟨rfl, ?_⟩
    rw [← List.singleton_append, deeds_append, deeds_append, hdeeds]
    cases task <;> rfl

/-- What one failed attempt does. -/
def failedAttempt (url : String) (error : FetchError) : List Deed :=
  taskDeeds (.fetch url) (.error error)

/-- A status report as it is published. -/
def reported (deviceId : String) (report : StatusReport) : Deed :=
  .published (Topic.status deviceId) report.message.bytes

theorem report_spec {r : StatusReport} {u : Unit}
    (h : Runs ((liftM (report deviceId link r) : Session Unit).run m) trace (u, m')) :
    m = m' ∧ deeds trace = [reported deviceId r] := by
  obtain ⟨hreport, rfl⟩ := Session.runs_lift.mp h
  obtain ⟨_, hpublish⟩ := Program.runs_discard.mp hreport
  obtain rfl := Program.runs_request.mp hpublish
  exact ⟨rfl, rfl⟩

/-- One attempt of a machine that downloads: the image was fetched and reported, or the budget is
spent and the failure was reported, or another attempt is left. -/
theorem superviseTurn_spec {a : UInt32} (hstate : m.state = .downloading a)
    {isAlive : Bool} {n : Next Bool Outcome}
    (h : Runs ((superviseTurn deviceId config link url isAlive).run m) trace (n, m')) :
    m'.budget = m.budget ∧
      ((∃ image, n = .finish (.updated image) ∧ m'.state = .succeeded ∧
          deeds trace = taskDeeds (.fetch url) (.ok image) ++
            [reported deviceId (.downloaded url), reported deviceId (.succeeded url)]) ∨
        (∃ error, n = .finish (.failed (a + 1) error) ∧ m'.state = .failed ∧
          ¬ a + 1 < m.budget ∧
          deeds trace = failedAttempt url error ++
            [reported deviceId (.failed url error.message)]) ∨
        ∃ stillAlive error, n = .again stillAlive ∧ m'.state = .downloading (a + 1) ∧
          a + 1 < m.budget ∧ deeds trace = failedAttempt url error) := by
  obtain ⟨_, _, _, _, hget, hbody, rfl⟩ := Session.runs_bind.mp h
  obtain ⟨rfl, rfl, rfl⟩ := Session.runs_get.mp hget
  obtain ⟨_, ⟨result, alive⟩, _, _, hfetch, hrest, rfl⟩ := Session.runs_bind.mp hbody
  obtain ⟨rfl, hfetched⟩ := drain_spec hstate hfetch
  cases result with
  | ok image =>
    obtain ⟨_, hreports, rfl⟩ := Session.runs_tell_bind.mp hrest
    rw [Machine.handle_fetchSucceeded hstate] at hreports ⊢
    obtain ⟨_, _, _, _, hfirst, hlast, rfl⟩ := Session.runs_bind.mp hreports
    obtain ⟨rfl, hdownloaded⟩ := report_spec hfirst
    obtain ⟨_, _, _, _, hsecond, hpure, rfl⟩ := Session.runs_bind.mp hlast
    obtain ⟨rfl, hsucceeded⟩ := report_spec hsecond
    obtain ⟨rfl, rfl, rfl⟩ := Session.runs_pure.mp hpure
    refine ⟨rfl, .inl ⟨image, rfl, rfl, ?_⟩⟩
    simp [hfetched, hdownloaded, hsucceeded]
  | error error =>
    obtain ⟨_, hreports, rfl⟩ := Session.runs_tell_bind.mp hrest
    obtain ⟨_, _, _, _, hget', hnext, rfl⟩ := Session.runs_bind.mp hreports
    obtain ⟨rfl, rfl, rfl⟩ := Session.runs_get.mp hget'
    -- Whether the session goes on is read off the state that the machine takes.
    by_cases hlt : a + 1 < m.budget
    · rw [Machine.handle_fetchFailed_of_lt hstate hlt] at hnext ⊢
      have hgo : (m.moveTo (.downloading (a + 1))).state ≠ .failed := by simp
      rw [if_neg hgo] at hnext
      obtain ⟨_, ⟨⟨⟩, alive'⟩, _, _, hwait, hpure, rfl⟩ := Session.runs_bind.mp hnext
      obtain ⟨rfl, hwaited⟩ := drain_spec (Machine.moveTo_state ..) hwait
      obtain ⟨rfl, rfl, rfl⟩ := Session.runs_pure.mp hpure
      refine ⟨rfl, .inr (.inr ⟨alive', error, rfl, rfl, hlt, ?_⟩)⟩
      simp [hfetched, hwaited, failedAttempt]
      rfl
    · rw [Machine.handle_fetchFailed_of_not_lt hstate hlt] at hnext ⊢
      rw [if_pos (Machine.moveTo_state ..)] at hnext
      obtain ⟨_, _, _, _, hfirst, hpure, rfl⟩ := Session.runs_bind.mp hnext
      obtain ⟨rfl, hfailed⟩ := report_spec hfirst
      obtain ⟨rfl, rfl, rfl⟩ := Session.runs_pure.mp hpure
      refine ⟨rfl, .inr (.inl ⟨error, ?_, rfl, hlt, ?_⟩)⟩
      · simp [hstate, Machine.State.attempt?]
      · simp [hfetched, hfailed, failedAttempt]

/-- Attempts that fail are counted by the machine, and stay below its budget. -/
theorem superviseTurns_spec {s s' : Bool}
    (h : Session.Turns (superviseTurn deviceId config link url) s m trace s' m') {a : UInt32}
    (hstate : m.state = .downloading a) (hlt : a < m.budget) :
    m'.budget = m.budget ∧ ∃ (errors : List FetchError) (b : UInt32),
      m'.state = .downloading b ∧ b < m.budget ∧ b.toNat = a.toNat + errors.length ∧
        deeds trace = errors.flatMap (failedAttempt url) := by
  -- The count does not wrap around, as it is below the budget before every attempt.
  induction h generalizing a with
  | stay => exact ⟨rfl, [], a, hstate, hlt, rfl, rfl⟩
  | again this _ ih =>
    obtain ⟨hbudget, ⟨_, heq, _⟩ | ⟨_, heq, _⟩ | ⟨_, error, heq, hnext, hless, hthis⟩⟩ :=
      superviseTurn_spec hstate this
    · cases heq
    · cases heq
    · obtain ⟨hbudget', errors, b, hb, hblt, hcount, hrest⟩ := ih hnext (hbudget ▸ hless)
      refine ⟨hbudget'.trans hbudget, error :: errors, b, hb, hbudget ▸ hblt, ?_, ?_⟩
      · rw [hcount, List.length_cons]
        have hnext := Machine.toNat_next_attempt hlt
        omega
      · rw [deeds_append, hthis, hrest, List.flatMap_cons]

/-- What an update does that comes to an outcome: how it ended, the state of the machine then, and
every message published and every fetch made on the way, in order. -/
inductive Course (deviceId url : String) (budget : UInt32) :
    Outcome → Machine.State → List Deed → Prop
  /-- After fewer failures than there are attempts, one fetch brought the image. -/
  | updated (errors : List FetchError) (image : Image) (hcount : errors.length < budget.toNat) :
    Course deviceId url budget (.updated image) .succeeded
      (reported deviceId (.received url) :: errors.flatMap (failedAttempt url) ++
        taskDeeds (.fetch url) (.ok image) ++
        [reported deviceId (.downloaded url), reported deviceId (.succeeded url)])
  /-- Every attempt failed, and the last failure is the one that is told. -/
  | failed (errors : List FetchError) (error : FetchError)
    (hcount : errors.length + 1 = budget.toNat) :
    Course deviceId url budget (.failed budget error) .failed
      (reported deviceId (.received url) :: errors.flatMap (failedAttempt url) ++
        failedAttempt url error ++ [reported deviceId (.failed url error.message)])

@[simp]
theorem fetches_reported (report : StatusReport) (rest : List Deed) :
    fetches (reported deviceId report :: rest) = fetches rest :=
  rfl

@[simp]
theorem fetchResults_reported (report : StatusReport) (rest : List Deed) :
    fetchResults (reported deviceId report :: rest) = fetchResults rest :=
  rfl

@[simp]
theorem fetchResults_fetch (result : Except FetchError Image) :
    fetchResults (taskDeeds (.fetch url) result) = [result] :=
  rfl

@[simp]
theorem fetches_failedAttempt (error : FetchError) : fetches (failedAttempt url error) = [url] :=
  rfl

@[simp]
theorem fetches_failedAttempts (url : String) (errors : List FetchError) :
    fetches (errors.flatMap (failedAttempt url)) = errors.map fun _ => url := by
  induction errors with
  | nil => rfl
  | cons error errors ih => exact congrArg (url :: ·) ih

/-- An update that succeeded hands on what the last fetch brought. -/
theorem Course.of_updated {budget : UInt32} {image : Image} {state : Machine.State}
    {done : List Deed} (h : Course deviceId url budget (.updated image) state done) :
    state = .succeeded ∧ (fetchResults done).getLast? = some (.ok image) := by
  cases h with
  | updated errors image hcount => exact ⟨rfl, by simp⟩

/-- An update that failed used up its budget and tells the failure of the last fetch. -/
theorem Course.of_failed {budget attempts : UInt32} {error : FetchError} {state : Machine.State}
    {done : List Deed} (h : Course deviceId url budget (.failed attempts error) state done) :
    state = .failed ∧ attempts = budget ∧ (fetches done).length = budget.toNat ∧
      (fetchResults done).getLast? = some (.error error) := by
  cases h with
  | failed errors error hcount =>
    refine ⟨rfl, rfl, ?_, ?_⟩
    · rw [← hcount]
      simp
    · simp [failedAttempt]

/-- A machine that has just begun to download goes through with it. -/
theorem supervise_spec (hstate : m.state = .downloading 0) (hbudget : 0 < m.budget)
    {outcome : Outcome}
    (h : Runs ((supervise deviceId config link url).run m) trace (outcome, m')) :
    Course deviceId url m.budget outcome m'.state
      (reported deviceId (.received url) :: deeds trace) := by
  obtain ⟨before, _, m₁, last, hbefore, hlast, rfl⟩ := Session.exists_turns h
  obtain ⟨hbudget₁, errors, b, hb, hblt, hcount, hdeeds⟩ :=
    superviseTurns_spec hbefore hstate hbudget
  have hzero : (0 : UInt32).toNat = 0 := rfl
  rw [deeds_append, hdeeds]
  obtain ⟨-, ⟨image, heq, hend, hdone⟩ | ⟨error, heq, hend, hspent, hdone⟩ | ⟨_, _, heq, _⟩⟩ :=
    superviseTurn_spec hb hlast
  · cases heq
    have hless := UInt32.lt_iff_toNat_lt.mp hblt
    have hcourse : Course deviceId url m.budget (.updated image) .succeeded _ :=
      .updated errors image (by omega)
    simpa [hend, hdone] using hcourse
  · cases heq
    rw [hbudget₁] at hspent
    have hnext := Machine.toNat_next_attempt hblt
    -- The count was below the budget and its successor is not, so they are equal.
    have hbudget' := Machine.last_attempt hblt hspent
    have hcourse : Course deviceId url m.budget (.failed m.budget error) .failed _ :=
      .failed errors error (by rw [← hbudget']; omega)
    rw [hend, hdone, hbudget']
    simpa using hcourse
  · cases heq

/-! ## Waiting for the trigger -/

/-- The address that a message asks to fetch, if it is a trigger for the device. -/
def trigger? (deviceId : String) (message : Message) : Option String :=
  if message.topic = Topic.update deviceId then (UpdateTrigger.decode message.payload).toOption
  else none

/-- The address of the first trigger for the device among the messages that were heard. -/
def firstTrigger? (deviceId : String) (trace : List (Exchange World)) : Option String :=
  (heard trace).findSome? (trigger? deviceId)

theorem takeMessage_of_none {message : Message} (h : trigger? deviceId message = none) :
    takeMessage deviceId config link message = pure none := by
  unfold takeMessage
  unfold trigger? at h
  split
  · rfl
  · rename_i htopic
    rw [if_pos (not_not.mp htopic)] at h
    split
    · rfl
    · rename_i hdecode
      rw [hdecode] at h
      cases h

/-- What comes after the trigger: it is reported, and the update gone through with. -/
def goOn (deviceId : String) (config : Config) (link : Link) (url : String) : Session Outcome := do
  report deviceId link (.received url)
  supervise deviceId config link url

/-- A machine that awaits a trigger goes on with the update when it hears one. -/
theorem takeMessage_run (hstate : m.state = .awaitingTrigger) {message : Message}
    (h : trigger? deviceId message = some url) :
    (takeMessage deviceId config link message).run m =
      request World (.announce (.downloading 0)) >>= fun _ =>
        (goOn deviceId config link url >>= fun outcome => pure (some outcome)).run
          (m.moveTo (.downloading 0)) := by
  unfold takeMessage
  unfold trigger? at h
  split at h
  · rename_i htopic
    rw [if_neg (not_not.mpr htopic)]
    split
    · rename_i hdecode
      rw [hdecode] at h
      cases h
    · rename_i hdecode
      rw [hdecode] at h
      obtain rfl := Option.some.inj h
      rw [StateT.run_bind, Session.handle_run, Machine.handle_trigger_awaiting hstate]
      rfl
  · cases h

/-- A machine that awaits a trigger takes the first that is one and goes through with the update;
any other message changes nothing. -/
theorem takeMessage_spec (hstate : m.state = .awaitingTrigger) (hbudget : 0 < m.budget)
    {message : Message} {o : Option Outcome}
    (h : Runs ((takeMessage deviceId config link message).run m) trace (o, m')) :
    (o = none ∧ m = m' ∧ trace = [] ∧ trigger? deviceId message = none) ∨
      ∃ url outcome, o = some outcome ∧ trigger? deviceId message = some url ∧
        Course deviceId url m.budget outcome m'.state (deeds trace) := by
  cases htrigger : trigger? deviceId message with
  | none =>
    rw [takeMessage_of_none htrigger] at h
    obtain ⟨rfl, rfl, rfl⟩ := Session.runs_pure.mp h
    exact .inl ⟨rfl, rfl, rfl, rfl⟩
  | some url =>
    rw [takeMessage_run hstate htrigger] at h
    obtain ⟨_, _, hgoOn, rfl⟩ := Program.runs_request_bind.mp h
    obtain ⟨_, outcome, _, _, hgo, hpure, rfl⟩ := Session.runs_bind.mp hgoOn
    obtain ⟨rfl, rfl, rfl⟩ := Session.runs_pure.mp hpure
    obtain ⟨received, _, _, rest, hfirst, hrun, rfl⟩ := Session.runs_bind.mp hgo
    obtain ⟨rfl, hreceived⟩ := report_spec hfirst
    have hcourse := supervise_spec (Machine.moveTo_state ..) hbudget hrun
    refine .inr ⟨url, outcome, rfl, rfl, ?_⟩
    show Course deviceId url m.budget outcome _ (deeds (received ++ rest ++ []))
    simpa [hreceived] using hcourse

/-- A turn of waiting: the bus is lost, or a message that is no trigger is passed over, or the
update is gone through with. -/
theorem serveTurn_spec (hstate : m.state = .awaitingTrigger) (hbudget : 0 < m.budget)
    {n : Next Unit (Except Error Outcome)}
    (h : Runs ((serveTurn deviceId config link).run m) trace (n, m')) :
    (n = .again () ∧ m = m' ∧ deeds trace = [] ∧ firstTrigger? deviceId trace = none) ∨
      (∃ error, n = .finish (.error (.bus error)) ∧ m = m' ∧ deeds trace = [] ∧
          firstTrigger? deviceId trace = none) ∨
      ∃ url outcome, n = .finish (.ok outcome) ∧ firstTrigger? deviceId trace = some url ∧
        Course deviceId url m.budget outcome m'.state (deeds trace) := by
  obtain ⟨r, _, hrest, rfl⟩ := Session.runs_request_bind.mp h
  cases r with
  | error error =>
    obtain ⟨rfl, rfl, rfl⟩ := Session.runs_pure.mp hrest
    exact .inr (.inl ⟨error, rfl, rfl, rfl, rfl⟩)
  | ok message =>
    obtain ⟨taken, _, _, _, htake, hpure, rfl⟩ := Session.runs_bind.mp hrest
    have hheard : heard (⟨.receive link, .ok message⟩ :: (taken ++ [])) =
        message :: heard taken := by
      rw [List.append_nil]
      rfl
    rcases takeMessage_spec hstate hbudget htake with
      ⟨rfl, rfl, rfl, hnone⟩ | ⟨url, outcome, rfl, hsome, hcourse⟩
    · obtain ⟨rfl, rfl, rfl⟩ := Session.runs_pure.mp hpure
      refine .inl ⟨rfl, rfl, rfl, ?_⟩
      rw [firstTrigger?, hheard, List.findSome?_cons, hnone]
      rfl
    · obtain ⟨rfl, rfl, rfl⟩ := Session.runs_pure.mp hpure
      refine .inr (.inr ⟨url, outcome, rfl, ?_, ?_⟩)
      · rw [firstTrigger?, hheard, List.findSome?_cons, hsome]
      · rw [List.append_nil]
        exact hcourse

/-- Messages that are passed over leave no trace but their own. -/
theorem serveTurns_spec {u v : Unit}
    (h : Session.Turns (fun _ => serveTurn deviceId config link) u m trace v m')
    (hstate : m.state = .awaitingTrigger) (hbudget : 0 < m.budget) :
    m = m' ∧ deeds trace = [] ∧ firstTrigger? deviceId trace = none := by
  induction h with
  | stay => exact ⟨rfl, rfl, rfl⟩
  | again this _ ih =>
    rcases serveTurn_spec hstate hbudget this with
      ⟨_, rfl, hthis, hnone⟩ | ⟨_, heq, _⟩ | ⟨_, _, heq, _⟩
    · obtain ⟨rfl, hrest, hnone'⟩ := ih hstate hbudget
      refine ⟨rfl, by rw [deeds_append, hthis, hrest, List.append_nil], ?_⟩
      rw [firstTrigger?] at hnone hnone' ⊢
      rw [heard_append, List.findSome?_append, hnone, hnone']
      rfl
    · cases heq
    · cases heq

/-- What a session comes to on an open connection. -/
theorem serve_spec (hstate : m.state = .registered) (hbudget : 0 < m.budget)
    {result : Except Error Outcome}
    (h : Runs ((serve deviceId config link).run m) trace (result, m')) :
    (∃ error, result = .error (.bus error) ∧ firstTrigger? deviceId trace = none ∧
        (m'.state = .registered ∨ m'.state = .awaitingTrigger) ∧ deeds trace = []) ∨
      ∃ url outcome, result = .ok outcome ∧ firstTrigger? deviceId trace = some url ∧
        Course deviceId url m.budget outcome m'.state (deeds trace) := by
  obtain ⟨r, _, hrest, rfl⟩ := Session.runs_request_bind.mp h
  cases r with
  | error error =>
    obtain ⟨rfl, rfl, rfl⟩ := Session.runs_pure.mp hrest
    exact .inl ⟨error, rfl, rfl, .inl hstate, rfl⟩
  | ok =>
    obtain ⟨r, _, hrest', rfl⟩ := Session.runs_request_bind.mp hrest
    cases r with
    | error error =>
      obtain ⟨rfl, rfl, rfl⟩ := Session.runs_pure.mp hrest'
      exact .inl ⟨error, rfl, rfl, .inl hstate, rfl⟩
    | ok =>
      obtain ⟨_, hloop, rfl⟩ := Session.runs_tell_bind.mp hrest'
      rw [Machine.handle_subscribed hstate] at hloop ⊢
      obtain ⟨before, _, _, last, hbefore, hlast, rfl⟩ := Session.exists_turns hloop
      obtain ⟨rfl, hquiet, hnone⟩ := serveTurns_spec hbefore (Machine.moveTo_state ..) hbudget
      -- The last turn is the first that can have heard a trigger.
      have hheard : firstTrigger? deviceId (⟨.subscribe link (Topic.status deviceId), .ok ()⟩ ::
          ⟨.subscribe link (Topic.update deviceId), .ok ()⟩ ::
            (Machine.Transition.announcement (.moved m.state .awaitingTrigger) ++
              (before ++ last))) = firstTrigger? deviceId last := by
        rw [firstTrigger?] at hnone
        show (heard (_ ++ (before ++ last))).findSome? _ = _
        rw [heard_append, heard_append, heard_announcement, List.nil_append,
          List.findSome?_append, hnone]
        rfl
      have hdone : deeds (⟨.subscribe link (Topic.status deviceId), .ok ()⟩ ::
          ⟨.subscribe link (Topic.update deviceId), .ok ()⟩ ::
            (Machine.Transition.announcement (.moved m.state .awaitingTrigger) ++
              (before ++ last))) = deeds last := by
        show deeds (_ ++ (before ++ last)) = _
        rw [deeds_append, deeds_append, deeds_announcement, hquiet]
        rfl
      rw [hheard, hdone]
      rcases serveTurn_spec (Machine.moveTo_state ..) hbudget hlast with
        ⟨heq, _⟩ | ⟨error, heq, rfl, hdeeds, hnone'⟩ | ⟨url, outcome, heq, hsome, hcourse⟩
      · cases heq
      · cases heq
        exact .inl ⟨error, rfl, hnone', .inr rfl, hdeeds⟩
      · cases heq
        exact .inr ⟨url, outcome, rfl, hsome, hcourse⟩

/-! ## The whole session -/

variable {credentials : Credentials}

/-- A new session of a registered device whose machine counts what its policy allows ends in one of
two ways. Without a trigger it ends with an error of the bus, having published and fetched nothing.
With one it goes through with the update to the address that the first trigger names. -/
theorem run_course (hstate : m.state = .registered) (hbudget : m.budget = config.retry.attempts)
    {result : Except Error Outcome}
    (h : Runs ((run credentials config).run m) trace (result, m')) :
    (∃ error, result = .error (.bus error) ∧ firstTrigger? credentials.deviceId trace = none ∧
        (m'.state = .registered ∨ m'.state = .awaitingTrigger) ∧ deeds trace = []) ∨
      ∃ url outcome, result = .ok outcome ∧
        firstTrigger? credentials.deviceId trace = some url ∧
        Course credentials.deviceId url config.retry.attempts outcome m'.state (deeds trace) := by
  obtain ⟨_, _, _, _, hget, hbody, rfl⟩ := Session.runs_bind.mp h
  obtain ⟨rfl, rfl, rfl⟩ := Session.runs_get.mp hget
  -- Neither guard holds the session up.
  rw [if_neg (not_not.mpr hstate), if_neg (not_not.mpr hbudget.symm)] at hbody
  obtain ⟨r, _, hrest, rfl⟩ := Session.runs_request_bind.mp hbody
  cases r with
  | error error =>
    obtain ⟨rfl, rfl, rfl⟩ := Session.runs_pure.mp hrest
    exact .inl ⟨error, rfl, rfl, .inl hstate, rfl⟩
  | ok link =>
    obtain ⟨served, r, m₁, _, hserve, hclose, rfl⟩ := Session.runs_bind.mp hrest
    obtain ⟨_, _, hpure, rfl⟩ := Session.runs_request_bind.mp hclose
    obtain ⟨rfl, rfl, rfl⟩ := Session.runs_pure.mp hpure
    have hpos : 0 < m.budget := hbudget ▸ Machine.new_budget_pos config.retry.maxAttempts
    have hdeeds : deeds (⟨.connect (.ofCredentials credentials), .ok link⟩ ::
        (served ++ [⟨.close link, ()⟩])) = deeds served := by
      show deeds (served ++ _) = _
      rw [deeds_append]
      exact List.append_nil _
    have hheard : heard (⟨.connect (.ofCredentials credentials), .ok link⟩ ::
        (served ++ [⟨.close link, ()⟩])) = heard served := by
      show heard (served ++ _) = _
      rw [heard_append]
      exact List.append_nil _
    rw [← hbudget, List.nil_append, firstTrigger?, hdeeds, hheard]
    rcases serve_spec hstate hpos hserve with
      ⟨error, rfl, hnone, hend, hdeeds⟩ | ⟨url, outcome, rfl, hsome, hcourse⟩
    · exact .inl ⟨error, rfl, hnone, hend, hdeeds⟩
    · exact .inr ⟨url, outcome, rfl, hsome, hcourse⟩

/-- A device on the bench hears two triggers. The first fetch fails, the second does not. -/
def rehearsal : Bench where
  limit := 100
  connects := [{
    retained := [
      { message := ⟨Topic.update "device", (UpdateTrigger.document "image").bytes⟩ },
      { message := ⟨Topic.update "device", (UpdateTrigger.document "other").bytes⟩, after := 2 }] }]
  fetches := [
    { result := .error (.status 503), delay := 5 },
    { result := .ok ⟨"/staged", 7, "digest"⟩ }]

/-- A policy that allows two attempts. -/
def rehearsalConfig : Config where
  retry := { maxAttempts := 2, interval := 1 }

/-- An update under this policy. -/
def rehearsed : Program World (Except Error Outcome × Machine) :=
  (run ⟨"device", "user", "password", "client"⟩ rehearsalConfig).run (.restore true 2)

/-- How it ends. -/
def rehearsalEnd : Machine where
  state := .succeeded
  budget := 2
  watched := { value := .succeeded, changes := 5 }

theorem run_course_rehearsed :
    ∃ trace, Runs rehearsed trace (.ok (.updated ⟨"/staged", 7, "digest"⟩), rehearsalEnd) ∧
      ∃ url, firstTrigger? "device" trace = some url ∧
        Course "device" url 2 (.updated ⟨"/staged", 7, "digest"⟩) .succeeded (deeds trace) := by
  have hend : (rehearsed.run Bench.answer.recorded 8 (rehearsal, [])).1 =
      some (.ok (.updated ⟨"/staged", 7, "digest"⟩), rehearsalEnd) := by
    decide +kernel
  obtain ⟨hruns, -⟩ := runs_of_run hend
  refine ⟨_, hruns, ?_⟩
  rcases run_course rfl rfl hruns with ⟨_, heq, _⟩ | ⟨url, _, heq, hcourse⟩
  · cases heq
  · cases heq
    exact ⟨url, hcourse⟩

end UpdateAgent.Update
