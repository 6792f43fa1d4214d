import UpdateAgent.Proofs.Session.Registration
import UpdateAgent.Proofs.Session.Update
import UpdateAgent.Session.Cycle

/-!
# The course of a boot cycle
-/

namespace UpdateAgent.Cycle

open Program Trace

variable {config : CycleConfig} {m m' : Machine} {trace : List (Exchange World)}
  {state : Machine.State}

/-- What was called before the device had its credentials: nothing, or what a registration asks
for. -/
def Registering (config : CycleConfig) (trace : List (Exchange World)) : Prop :=
  ∀ e ∈ trace, ∃ before,
    Registration.Asked config.identity config.registration before e.call

/-- How a cycle comes to its outcome. -/
inductive Course (config : CycleConfig) :
    CycleOutcome → Machine.State → List (Exchange World) → Prop
  /-- The device got no credentials. -/
  | unregistered {error : Registration.Error} {state : Machine.State}
    {trace : List (Exchange World)} (hcalls : Registering config trace)
    (hcourse : Registration.Course config.registration (.error error) state trace) :
    Course config (.aborted (.registration error)) state trace
  /-- The bus was lost before a trigger came. -/
  | lost {error : BusError} {state : Machine.State} {first rest : List (Exchange World)}
    (hcalls : Registering config first)
    (hstate : state = .registered ∨ state = .awaitingTrigger) (hquiet : deeds rest = []) :
    Course config (.aborted (.update (.bus error))) state (first ++ rest)
  /-- The update succeeded. -/
  | updated {deviceId url : String} {image : Image} {state : Machine.State}
    {first rest : List (Exchange World)} (hcalls : Registering config first)
    (hcourse : Update.Course deviceId url config.update.retry.attempts (.updated image) state
      (deeds rest)) :
    Course config (.updated image) state (first ++ rest)
  /-- The update failed. -/
  | failed {deviceId url : String} {attempts : UInt32} {error : FetchError}
    {state : Machine.State} {first rest : List (Exchange World)}
    (hcalls : Registering config first)
    (hcourse : Update.Course deviceId url config.update.retry.attempts (.failed attempts error)
      state (deeds rest)) :
    Course config (.updateFailed attempts error) state (first ++ rest)

/-- Whichever way a device gets its credentials, its machine is registered then and counts as many
attempts as the policy of updates allows. -/
theorem obtain_spec {credentials : Option Credentials}
    (hstate : m.state = if credentials.isSome then .registered else .unregistered)
    {result : Except Registration.Error Credentials}
    (h : Runs ((obtain config credentials).run m) trace (result, m')) :
    m'.budget = m.budget ∧ Registering config trace ∧
      ((∃ c, result = .ok c ∧ m'.state = .registered) ∨
        ∃ error, result = .error error ∧
          Registration.Course config.registration (.error error) m'.state trace) := by
  cases credentials with
  | some c =>
    obtain ⟨rfl, rfl, rfl⟩ := Session.runs_pure.mp h
    exact ⟨rfl, nofun, .inl ⟨c, rfl, hstate⟩⟩
  | none =>
    have hunregistered : m.state = .unregistered ∨ m.state = .awaitingReply := .inl hstate
    have hcalls : Registering config trace := fun e he =>
      Registration.run_asked hunregistered h he
    have hrun : Runs ((Registration.run config.identity config.registration).run m) trace
        (result, m') := h
    rw [Registration.run_of_state hunregistered] at hrun
    obtain ⟨hbudget, hcourse⟩ := Registration.attempts_spec hunregistered hrun
    refine ⟨hbudget, hcalls, ?_⟩
    cases result with
    | ok c => exact .inl ⟨c, rfl, ((hcourse.ok_iff c).mp rfl).2.2⟩
    | error error => exact .inr ⟨error, rfl, hcourse⟩

theorem provision_spec {credentials : Option Credentials}
    (hstate : m.state = if credentials.isSome then .registered else .unregistered)
    (hbudget : m.budget = config.update.retry.attempts) {outcome : CycleOutcome}
    (h : Runs ((provision config credentials).run m) trace (outcome, m')) :
    Course config outcome m'.state trace := by
  obtain ⟨_, _, m₁, _, hobtain, hrest, rfl⟩ := Session.runs_bind.mp h
  obtain ⟨hbudget₁, hcalls, ⟨c, rfl, hregistered⟩ | ⟨error, rfl, hcourse⟩⟩ :=
    obtain_spec hstate hobtain
  · obtain ⟨_, result, _, _, hupdate, hresult, rfl⟩ := Session.runs_bind.mp hrest
    rcases Update.run_course hregistered (hbudget₁.trans hbudget) hupdate with
      ⟨error, rfl, -, hend, hquiet⟩ | ⟨url, outcome, rfl, -, hcourse⟩
    · obtain ⟨rfl, rfl, rfl⟩ := Session.runs_pure.mp hresult
      rw [List.append_nil]
      exact .lost hcalls hend hquiet
    · cases outcome with
      | updated image =>
        obtain ⟨rfl, rfl, rfl⟩ := Session.runs_pure.mp hresult
        rw [List.append_nil]
        exact .updated hcalls hcourse
      | failed attempts error =>
        obtain ⟨rfl, rfl, rfl⟩ := Session.runs_pure.mp hresult
        rw [List.append_nil]
        exact .failed hcalls hcourse
  · obtain ⟨rfl, rfl, rfl⟩ := Session.runs_pure.mp hrest
    rw [List.append_nil]
    exact .unregistered hcalls hcourse

/-! ## What an outcome tells -/

theorem Registering.fetches (h : Registering config trace) : fetches (deeds trace) = [] := by
  rw [Trace.fetches, List.filterMap_eq_nil_iff]
  intro d hd
  rw [Registration.deed_of_asked h hd]

theorem Registering.fetchResults (h : Registering config trace) :
    fetchResults (deeds trace) = [] := by
  rw [Trace.fetchResults, List.filterMap_eq_nil_iff]
  intro d hd
  rw [Registration.deed_of_asked h hd]

theorem Registering.not_reported (h : Registering config trace) (deviceId : String)
    (payload : Bytes) : .published (Topic.status deviceId) payload ∉ deeds trace := by
  intro hd
  have heq := Registration.deed_of_asked h hd
  exact Topic.status_ne_register deviceId (Deed.published.inj heq).1

/-- What the outcome of a cycle tells of the state of the machine and of what was done. -/
structure Settled (config : CycleConfig) (outcome : CycleOutcome) (state : Machine.State)
    (trace : List (Exchange World)) : Prop where
  updated_iff : (∃ image, outcome = .updated image) ↔ state = .succeeded
  updated : ∀ image, outcome = .updated image →
    (fetchResults (deeds trace)).getLast? = some (.ok image)
  failed_iff : (∃ attempts error, outcome = .updateFailed attempts error) ↔ state = .failed
  failed : ∀ attempts error, outcome = .updateFailed attempts error →
    attempts = max config.update.retry.maxAttempts 1 ∧
      (fetches (deeds trace)).length = attempts.toNat ∧
      (fetchResults (deeds trace)).getLast? = some (.error error)
  unregistered : ∀ error, outcome = .aborted (.registration error) →
    ((∃ n, error = .retryExhausted n) ∨ ∃ cause, error = .storage cause) ∧
      state = .awaitingReply ∧
      ∀ login r, ⟨.connect login, r⟩ ∈ trace → login = config.registration.bootstrap
  lost : ∀ error, outcome = .aborted (.update error) →
    (∃ cause, error = .bus cause) ∧ (state = .registered ∨ state = .awaitingTrigger)
  aborted : ∀ error, outcome = .aborted error → fetches (deeds trace) = [] ∧
    ∀ deviceId payload, .published (Topic.status deviceId) payload ∉ deeds trace
  no_guard : ∀ state policy budget,
    outcome ≠ .aborted (.registration (.invalidState state)) ∧
      outcome ≠ .aborted (.update (.invalidState state)) ∧
      outcome ≠ .aborted (.update (.budgetMismatch policy budget))

theorem Settled.of_updated {deviceId url : String} {image : Image}
    {first rest : List (Exchange World)} (hcalls : Registering config first)
    (hcourse : Update.Course deviceId url config.update.retry.attempts (.updated image) state
      (deeds rest)) : Settled config (.updated image) state (first ++ rest) := by
  obtain ⟨rfl, hlast⟩ := hcourse.of_updated
  constructor
  case updated_iff => exact ⟨fun _ => rfl, fun _ => ⟨image, rfl⟩⟩
  case updated =>
    rintro _ ⟨⟩
    rw [deeds_append, fetchResults_append, hcalls.fetchResults]
    exact hlast
  case failed_iff => exact ⟨nofun, nofun⟩
  case no_guard => exact fun _ _ _ => ⟨nofun, nofun, nofun⟩
  all_goals exact nofun

theorem Settled.of_failed {deviceId url : String} {attempts : UInt32} {error : FetchError}
    {first rest : List (Exchange World)} (hcalls : Registering config first)
    (hcourse : Update.Course deviceId url config.update.retry.attempts (.failed attempts error)
      state (deeds rest)) :
    Settled config (.updateFailed attempts error) state (first ++ rest) := by
  obtain ⟨rfl, rfl, hcount, hlast⟩ := hcourse.of_failed
  constructor
  case updated_iff => exact ⟨nofun, nofun⟩
  case failed_iff => exact ⟨fun _ => rfl, fun _ => ⟨_, error, rfl⟩⟩
  case failed =>
    rintro _ _ ⟨⟩
    rw [deeds_append, fetches_append, fetchResults_append, hcalls.fetches, hcalls.fetchResults]
    exact ⟨rfl, hcount, hlast⟩
  case no_guard => exact fun _ _ _ => ⟨nofun, nofun, nofun⟩
  all_goals exact nofun

theorem Settled.of_unregistered {error : Registration.Error} (hcalls : Registering config trace)
    (hcourse : Registration.Course config.registration (.error error) state trace) :
    Settled config (.aborted (.registration error)) state trace := by
  obtain rfl := hcourse.state_of_error
  have hcause : (∃ n, error = .retryExhausted n) ∨ ∃ cause, error = .storage cause := by
    cases hcourse with
    | refused _ => exact .inr ⟨_, rfl⟩
    | exhausted _ => exact .inl ⟨_, rfl⟩
  constructor
  case updated_iff => exact ⟨nofun, nofun⟩
  case failed_iff => exact ⟨nofun, nofun⟩
  case unregistered =>
    rintro _ ⟨⟩
    refine ⟨hcause, rfl, ?_⟩
    intro login r he
    obtain ⟨_, hasked⟩ := hcalls _ he
    exact hasked
  case aborted => exact fun _ _ => ⟨hcalls.fetches, hcalls.not_reported⟩
  case no_guard =>
    refine fun _ _ _ => ⟨?_, nofun, nofun⟩
    rintro ⟨⟩
    rcases hcause with ⟨_, heq⟩ | ⟨_, heq⟩ <;> cases heq
  all_goals exact nofun

theorem Settled.of_lost {error : BusError} {first rest : List (Exchange World)}
    (hcalls : Registering config first)
    (hstate : state = .registered ∨ state = .awaitingTrigger) (hquiet : deeds rest = []) :
    Settled config (.aborted (.update (.bus error))) state (first ++ rest) := by
  have hdeeds : deeds (first ++ rest) = deeds first := by
    rw [deeds_append, hquiet, List.append_nil]
  have hneither : state ≠ .succeeded ∧ state ≠ .failed := by
    rcases hstate with rfl | rfl <;> exact ⟨nofun, nofun⟩
  constructor
  case updated_iff => exact ⟨nofun, fun h => absurd h hneither.1⟩
  case failed_iff => exact ⟨nofun, fun h => absurd h hneither.2⟩
  case lost =>
    rintro _ ⟨⟩
    exact ⟨⟨error, rfl⟩, hstate⟩
  case aborted =>
    rw [hdeeds]
    exact fun _ _ => ⟨hcalls.fetches, hcalls.not_reported⟩
  case no_guard => exact fun _ _ _ => ⟨nofun, nofun, nofun⟩
  all_goals exact nofun

theorem Course.settled {outcome : CycleOutcome} (h : Course config outcome state trace) :
    Settled config outcome state trace := by
  cases h with
  | unregistered hcalls hcourse => exact .of_unregistered hcalls hcourse
  | lost hcalls hstate hquiet => exact .of_lost hcalls hstate hquiet
  | updated hcalls hcourse => exact .of_updated hcalls hcourse
  | failed hcalls hcourse => exact .of_failed hcalls hcourse

/-- That the credentials were loaded first adds nothing to what was done. -/
theorem Settled.cons_load {outcome : CycleOutcome} (h : Settled config outcome state trace)
    (loaded : Except StoreError (Option Credentials)) :
    Settled config outcome state (⟨.load, loaded⟩ :: trace) := by
  refine { h with unregistered := ?_ }
  intro error heq
  obtain ⟨hcause, hstate, hlogins⟩ := h.unregistered error heq
  refine ⟨hcause, hstate, ?_⟩
  intro login r he
  cases he with
  | tail _ he => exact hlogins login r he

theorem prepare_state (config : CycleConfig) (credentials : Option Credentials) :
    (prepare config credentials).machine.state =
      if credentials.isSome then .registered else .unregistered := by
  cases credentials <;> rfl

theorem prepare_budget (config : CycleConfig) (credentials : Option Credentials) :
    (prepare config credentials).machine.budget = config.update.retry.attempts := by
  cases credentials <;> rfl

/-- The first cycle after a boot: whenever it ends, its outcome tells where the machine is and what
was done. Neither session refuses to run. -/
theorem run_load_settled {outcome : CycleOutcome} {cycle : Cycle}
    (h : Runs (load config >>= run config) trace (outcome, cycle)) :
    Settled config outcome cycle.machine.state trace := by
  obtain ⟨_, prepared, ran, hload, hrun, rfl⟩ := runs_bind.mp h
  obtain ⟨loaded, rest, hprepare, rfl⟩ := runs_request_bind.mp hload
  have hprepared : rest = [] ∧ ∃ credentials, prepared = prepare config credentials := by
    cases loaded with
    | ok credentials =>
      obtain ⟨rfl, rfl⟩ := runs_pure.mp hprepare
      exact ⟨rfl, credentials, rfl⟩
    | error error =>
      obtain ⟨rfl, rfl⟩ := runs_pure.mp hprepare
      exact ⟨rfl, none, rfl⟩
  obtain ⟨rfl, credentials, rfl⟩ := hprepared
  obtain ⟨_, ⟨_, machine⟩, _, hprovision, hpure, rfl⟩ := runs_bind.mp hrun
  obtain ⟨rfl, heq⟩ := runs_pure.mp hpure
  cases heq
  have hcourse := provision_spec (prepare_state config credentials)
    (prepare_budget config credentials) hprovision
  rw [List.append_nil]
  exact hcourse.settled.cons_load loaded

/-- A device on the bench that registers and is then updated. -/
def rehearsal : Bench where
  limit := 100
  connects := Registration.rehearsal.connects ++ Update.rehearsal.connects
  fetches := Update.rehearsal.fetches

/-- What such a device knows. -/
def rehearsalConfig : CycleConfig where
  identity := Registration.rehearsalIdentity
  registration := Registration.rehearsalConfig
  update := Update.rehearsalConfig

theorem run_load_settled_rehearsed :
    ∃ trace cycle, Runs (load rehearsalConfig >>= run rehearsalConfig) trace
        (.updated ⟨"/staged", 7, "digest"⟩, cycle) ∧
      Settled rehearsalConfig (.updated ⟨"/staged", 7, "digest"⟩) cycle.machine.state trace := by
  have hend : ((load rehearsalConfig >>= run rehearsalConfig).run Bench.answer.recorded 8
      (rehearsal, [])).1.map (·.1) = some (.updated ⟨"/staged", 7, "digest"⟩) := by
    decide +kernel
  obtain ⟨⟨_, cycle⟩, hrun, rfl⟩ := Option.map_eq_some_iff.mp hend
  obtain ⟨hruns, -⟩ := runs_of_run hrun
  exact ⟨_, cycle, hruns, run_load_settled hruns⟩

end UpdateAgent.Cycle
