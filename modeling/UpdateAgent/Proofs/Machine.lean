import UpdateAgent.Machine

/-!
# Moves of the provisioning machine
-/

namespace UpdateAgent.Machine

/-- The machine in another state, of which its watchers were told. -/
def moveTo (m : Machine) (target : State) : Machine :=
  { m with state := target, watched := m.watched.send target }

@[simp]
theorem moveTo_state (m : Machine) (target : State) : (m.moveTo target).state = target :=
  rfl

@[simp]
theorem moveTo_budget (m : Machine) (target : State) : (m.moveTo target).budget = m.budget :=
  rfl

theorem handle_of_next {m : Machine} {event : Event} {target : State}
    (h : m.state.next? m.budget event = some target) :
    m.handle event = (.moved m.state target, m.moveTo target) := by
  simp [handle, h, moveTo]

theorem handle_of_none {m : Machine} {event : Event} (h : m.state.next? m.budget event = none) :
    m.handle event = (.ignored m.state event, m) := by
  simp [handle, h]

/-- The moves of a machine that may attempt `budget` downloads. -/
inductive Move (budget : UInt32) : State → Event → State → Prop
  | start : Move budget .unregistered .registrationStarted .awaitingReply
  | accept : Move budget .awaitingReply .registrationAccepted .registered
  | subscribe : Move budget .registered .subscribed .awaitingTrigger
  | trigger : Move budget .awaitingTrigger .triggerAccepted (.downloading 0)
  | retry {attempt : UInt32} (h : attempt + 1 < budget) :
      Move budget (.downloading attempt) .fetchFailed (.downloading (attempt + 1))
  | giveUp {attempt : UInt32} (h : ¬ attempt + 1 < budget) :
      Move budget (.downloading attempt) .fetchFailed .failed
  | finish {attempt : UInt32} : Move budget (.downloading attempt) .fetchSucceeded .succeeded

theorem move_of_next {state target : State} {budget : UInt32} {event : Event}
    (h : state.next? budget event = some target) : Move budget state event target := by
  unfold State.next? at h
  split at h
  case h_5 =>
    split at h
    case isTrue hlt =>
      cases h
      exact .retry hlt
    case isFalse hlt =>
      cases h
      exact .giveUp hlt
  case h_7 => cases h
  all_goals
    cases h
    constructor

/-- A trigger counts where it is awaited, and begins the first download. -/
theorem Move.of_trigger {state target : State} {budget : UInt32}
    (h : Move budget state .triggerAccepted target) :
    state = .awaitingTrigger ∧ target = .downloading 0 := by
  cases h
  exact ⟨rfl, rfl⟩

/-- A machine moves, or it ignores the event. -/
theorem handle_cases (m : Machine) (event : Event) :
    (∃ target, Move m.budget m.state event target ∧
      m.handle event = (.moved m.state target, m.moveTo target)) ∨
    m.handle event = (.ignored m.state event, m) := by
  cases hnext : m.state.next? m.budget event with
  | some target => exact .inl ⟨target, move_of_next hnext, handle_of_next hnext⟩
  | none => exact .inr (handle_of_none hnext)

/-- A machine that moved is where it is told to be. -/
theorem state_of_moved {m : Machine} {event : Event} {source target : State}
    (h : (m.handle event).1 = .moved source target) : (m.handle event).2.state = target := by
  rcases m.handle_cases event with ⟨target', -, hmoved⟩ | hignored
  · rw [hmoved] at h ⊢
    cases h
    rfl
  · rw [hignored] at h
    cases h

/-- A machine is made with a budget that allows an attempt. -/
theorem new_budget_pos (budget : UInt32) : 0 < (new budget).budget := by
  show 0 < if budget ≤ 1 then 1 else budget
  split
  · decide
  · rename_i h
    rw [UInt32.le_iff_toNat_le] at h
    exact UInt32.lt_iff_toNat_lt.mpr (Nat.lt_trans Nat.zero_lt_one (Nat.lt_of_not_le h))

/-- The budget of a machine stays as it was made. -/
theorem handle_budget (m : Machine) (event : Event) : (m.handle event).2.budget = m.budget := by
  rcases m.handle_cases event with ⟨target, -, hmoved⟩ | hignored
  · rw [hmoved, moveTo_budget]
  · rw [hignored]

/-- A device without credentials awaits a reply once registration has started, however often that
is. -/
theorem handle_registrationStarted {m : Machine}
    (hstate : m.state = .unregistered ∨ m.state = .awaitingReply) :
    (m.handle .registrationStarted).2.state = .awaitingReply := by
  rcases hstate with hstate | hstate
  · rw [handle_of_next (by rw [hstate]; rfl), moveTo_state]
  · rw [handle_of_none (by rw [hstate]; rfl), hstate]

/-- The accepted reply registers the device. -/
theorem handle_registrationAccepted {m : Machine} (hstate : m.state = .awaitingReply) :
    m.handle .registrationAccepted = (.moved m.state .registered, m.moveTo .registered) := by
  apply handle_of_next
  rw [hstate]
  rfl

/-- The subscription to its topics makes a registered device await a trigger. -/
theorem handle_subscribed {m : Machine} (hstate : m.state = .registered) :
    m.handle .subscribed = (.moved m.state .awaitingTrigger, m.moveTo .awaitingTrigger) := by
  apply handle_of_next
  rw [hstate]
  rfl

/-- The first trigger begins the download. -/
theorem handle_trigger_awaiting {m : Machine} (hstate : m.state = .awaitingTrigger) :
    m.handle .triggerAccepted = (.moved m.state (.downloading 0), m.moveTo (.downloading 0)) := by
  apply handle_of_next
  rw [hstate]
  rfl

/-! ## Registered devices -/

/-- The device has been registered. -/
def State.isRegistered : State → Bool
  | unregistered | awaitingReply => false
  | _ => true

theorem State.of_not_isRegistered {state : State} (h : state.isRegistered = false) :
    state = .unregistered ∨ state = .awaitingReply := by
  cases state with
  | unregistered => exact .inl rfl
  | awaitingReply => exact .inr rfl
  | _ => cases h

/-- Nothing that happens takes a registration back. -/
theorem Move.isRegistered {state target : State} {budget : UInt32} {event : Event}
    (h : Move budget state event target) (hstate : state.isRegistered) : target.isRegistered := by
  cases h with
  | start => exact hstate
  | _ => rfl

theorem isRegistered_handle {m : Machine} (h : m.state.isRegistered) (event : Event) :
    (m.handle event).2.state.isRegistered := by
  rcases m.handle_cases event with ⟨target, hmove, hmoved⟩ | hignored
  · rw [hmoved, moveTo_state]
    exact hmove.isRegistered h
  · rw [hignored]
    exact h

/-! ## While a download is under way -/

/-- An attempt below a budget has a successor: the count does not wrap. -/
theorem toNat_next_attempt {a budget : UInt32} (h : a < budget) :
    (a + 1).toNat = a.toNat + 1 := by
  have hlt := UInt32.lt_iff_toNat_lt.mp h
  have hbound := budget.toNat_lt
  rw [UInt32.toNat_add]
  simp
  omega

/-- The attempt after which no other is left is the last of the budget. -/
theorem last_attempt {a budget : UInt32} (h : a < budget) (hlast : ¬ a + 1 < budget) :
    a + 1 = budget := by
  have hlt := UInt32.lt_iff_toNat_lt.mp h
  rw [UInt32.lt_iff_toNat_lt, toNat_next_attempt h] at hlast
  apply UInt32.toNat_inj.mp
  rw [toNat_next_attempt h]
  omega

/-- A trigger does not count. -/
theorem handle_trigger_downloading {m : Machine} {a : UInt32} (hstate : m.state = .downloading a) :
    m.handle .triggerAccepted = (.ignored (.downloading a) .triggerAccepted, m) := by
  have h : m.state.next? m.budget .triggerAccepted = none := by rw [hstate]; rfl
  rw [handle_of_none h, hstate]

theorem handle_fetchSucceeded {m : Machine} {a : UInt32} (hstate : m.state = .downloading a) :
    m.handle .fetchSucceeded = (.moved m.state .succeeded, m.moveTo .succeeded) := by
  apply handle_of_next
  rw [hstate]
  rfl

/-- An attempt that fails is followed by another while the budget allows one. -/
theorem handle_fetchFailed_of_lt {m : Machine} {a : UInt32} (hstate : m.state = .downloading a)
    (hlt : a + 1 < m.budget) :
    m.handle .fetchFailed =
      (.moved m.state (.downloading (a + 1)), m.moveTo (.downloading (a + 1))) := by
  apply handle_of_next
  rw [hstate]
  exact if_pos hlt

theorem handle_fetchFailed_of_not_lt {m : Machine} {a : UInt32}
    (hstate : m.state = .downloading a) (hlt : ¬ a + 1 < m.budget) :
    m.handle .fetchFailed = (.moved m.state .failed, m.moveTo .failed) := by
  apply handle_of_next
  rw [hstate]
  exact if_neg hlt

end UpdateAgent.Machine
