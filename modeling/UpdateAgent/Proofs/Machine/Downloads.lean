import Mathlib.Data.List.TakeWhile
import UpdateAgent.Proofs.Machine.Progress

/-!
# Counting downloads

While an image is downloaded, only the ends of fetches count. So where a machine is after any events
is told by the failures before the first success, if there is one (`state_handles`): it gives up at
the failure that uses up its budget, and at no other event (`downloads_counted`).
-/

namespace UpdateAgent.Machine

variable {m : Machine} {budget attempt : UInt32} {events : List Event} {event : Event}

/-- The event tells how a fetch ended. -/
def Event.isFetch : Event → Bool
  | .fetchFailed | .fetchSucceeded => true
  | _ => false

/-- How many fetches fail before one succeeds. -/
def failures (events : List Event) : Nat :=
  (events.takeWhile (· ≠ .fetchSucceeded)).count .fetchFailed

@[simp]
theorem failures_nil : failures [] = 0 :=
  rfl

@[simp]
theorem failures_succeeded (events : List Event) : failures (.fetchSucceeded :: events) = 0 :=
  rfl

@[simp]
theorem failures_failed (events : List Event) :
    failures (.fetchFailed :: events) = failures events + 1 := by
  simp [failures]

theorem failures_of_not_isFetch (h : event.isFetch = false) (events : List Event) :
    failures (event :: events) = failures events := by
  have hne : event ≠ .fetchSucceeded ∧ event ≠ .fetchFailed := by
    constructor <;> rintro rfl <;> cases h
  simp [failures, hne]

theorem failures_of_not_mem (h : .fetchSucceeded ∉ events) :
    failures events = events.count .fetchFailed := by
  have hall : ∀ event ∈ events, decide (event ≠ .fetchSucceeded) = true := by
    intro event hevent
    exact decide_eq_true fun heq => h (heq ▸ hevent)
  rw [failures, List.takeWhile_eq_self_iff.mpr hall]

/-- Every failure that counts is one event of the run. -/
theorem exists_failure {count : Nat} (h : count < failures events) :
    ∃ before after, events = before ++ .fetchFailed :: after ∧ .fetchSucceeded ∉ before ∧
      before.count .fetchFailed = count := by
  induction events generalizing count with
  | nil => exact absurd h (Nat.not_lt_zero _)
  | cons event events ih =>
    by_cases hevent : event.isFetch = false
    · rw [failures_of_not_isFetch hevent] at h
      obtain ⟨before, after, rfl, hmem, hcount⟩ := ih h
      have hne : event ≠ .fetchSucceeded ∧ event ≠ .fetchFailed := by
        constructor <;> rintro rfl <;> cases hevent
      exact ⟨event :: before, after, rfl, by simp [hmem, hne.1.symm], by simp [hcount, hne.2]⟩
    cases event with
    | fetchFailed =>
      cases count with
      | zero => exact ⟨[], events, rfl, List.not_mem_nil, rfl⟩
      | succ count =>
        rw [failures_failed] at h
        obtain ⟨before, after, rfl, hmem, hcount⟩ := ih (Nat.lt_of_succ_lt_succ h)
        exact ⟨.fetchFailed :: before, after, rfl, by simp [hmem], by simp [hcount]⟩
    | fetchSucceeded => exact absurd h (Nat.not_lt_zero _)
    | _ => exact absurd rfl hevent

/-! ## What does not count -/

/-- The download has begun, and may have ended. -/
def State.hasBegun : State → Bool
  | downloading _ | succeeded | failed => true
  | _ => false

theorem Move.hasBegun {state target : State} (h : Move budget state event target)
    (hstate : state.hasBegun) : target.hasBegun := by
  cases h with
  | retry => rfl
  | giveUp => rfl
  | finish => rfl
  | _ => cases hstate

/-- After the download has begun, a machine is moved by the end of a fetch only. -/
theorem Move.isFetch {state target : State} (h : Move budget state event target)
    (hstate : state.hasBegun) : event.isFetch := by
  cases h with
  | retry => rfl
  | giveUp => rfl
  | finish => rfl
  | _ => cases hstate

theorem hasBegun_handle (h : m.state.hasBegun) (event : Event) :
    (m.handle event).2.state.hasBegun := by
  rcases m.handle_cases event with ⟨target, hmove, hmoved⟩ | hignored
  · rw [hmoved, moveTo_state]
    exact hmove.hasBegun h
  · rw [hignored]
    exact h

theorem hasBegun_handles (h : m.state.hasBegun) (events : List Event) :
    (m.handles events).state.hasBegun := by
  induction events generalizing m with
  | nil => exact h
  | cons event events ih => exact ih (hasBegun_handle h event)

/-- Every other event is ignored. -/
theorem handle_of_not_isFetch (h : m.state.hasBegun) (hevent : event.isFetch = false) :
    m.handle event = (.ignored m.state event, m) := by
  rcases m.handle_cases event with ⟨target, hmove, -⟩ | hignored
  · rw [hmove.isFetch h] at hevent
    cases hevent
  · exact hignored

theorem handles_filter_isFetch (h : m.state.hasBegun) (events : List Event) :
    m.handles (events.filter Event.isFetch) = m.handles events := by
  induction events generalizing m with
  | nil => rfl
  | cons event events ih =>
    by_cases hevent : event.isFetch
    · rw [List.filter_cons_of_pos hevent, handles_cons, handles_cons]
      exact ih (hasBegun_handle h event)
    · rw [List.filter_cons_of_neg hevent, handles_cons,
        handle_of_not_isFetch h (Bool.eq_false_iff.mpr hevent)]
      exact ih h

/-! ## What counts -/

/-- Where a machine is to which this happens while its download number `attempt` is under way. -/
def ending (budget attempt : Nat) (events : List Event) : State :=
  if budget ≤ attempt + failures events then .failed
  else if .fetchSucceeded ∈ events then .succeeded
  else .downloading (UInt32.ofNat (attempt + failures events))

theorem ending_failed (budget attempt : Nat) (events : List Event) :
    ending budget attempt (.fetchFailed :: events) = ending budget (attempt + 1) events := by
  have hcount : attempt + failures (.fetchFailed :: events) = attempt + 1 + failures events := by
    rw [failures_failed]
    omega
  rw [ending, ending, hcount]
  simp only [List.mem_cons, reduceCtorEq, false_or]

theorem ending_of_not_isFetch (h : event.isFetch = false) (budget attempt : Nat)
    (events : List Event) :
    ending budget attempt (event :: events) = ending budget attempt events := by
  have hne : .fetchSucceeded ≠ event := by
    rintro rfl
    cases h
  simp [ending, failures_of_not_isFetch h, hne]

/-- By the events one after the other, of which a failure counts up and a success ends the count. -/
theorem state_handles (hstate : m.state = .downloading attempt) (hlt : attempt < m.budget) :
    (m.handles events).state = ending m.budget.toNat attempt.toNat events := by
  have hnat := UInt32.lt_iff_toNat_lt.mp hlt
  induction events generalizing m attempt with
  | nil =>
    rw [ending, failures_nil, if_neg (by omega), if_neg List.not_mem_nil, Nat.add_zero,
      UInt32.ofNat_toNat]
    exact hstate
  | cons event events ih =>
    rw [handles_cons]
    by_cases hevent : event.isFetch = false
    · have hbegun : m.state.hasBegun := by
        rw [hstate]
        rfl
      rw [handle_of_not_isFetch hbegun hevent, ending_of_not_isFetch hevent]
      exact ih hstate hlt hnat
    cases event with
    | fetchFailed =>
      rw [ending_failed]
      by_cases hretry : attempt + 1 < m.budget
      · rw [handle_fetchFailed_of_lt hstate hretry, ← toNat_next_attempt hlt]
        exact ih (m := m.moveTo _) rfl hretry (UInt32.lt_iff_toNat_lt.mp hretry)
      · have hlast := congrArg UInt32.toNat (last_attempt hlt hretry)
        rw [toNat_next_attempt hlt] at hlast
        rw [handle_fetchFailed_of_not_lt hstate hretry, handles_of_isTerminal rfl, ending,
          if_pos (by omega)]
        rfl
    | fetchSucceeded =>
      rw [handle_fetchSucceeded hstate, handles_of_isTerminal rfl, ending, failures_succeeded,
        if_neg (by omega), if_pos List.mem_cons_self]
      rfl
    | _ => exact absurd rfl hevent

theorem ending_eq_downloading_iff {budget : Nat} {a : UInt32} :
    ending budget 0 events = .downloading a ↔
      failures events < budget ∧ .fetchSucceeded ∉ events ∧ a = UInt32.ofNat (failures events) := by
  unfold ending
  rw [Nat.zero_add]
  split_ifs with hspent hmem
  · simp [Nat.not_lt.mpr hspent]
  · simp [hmem]
  · simp [hmem, Nat.lt_of_not_le hspent, eq_comm]

/-- A machine gives up at a failure after which no other attempt is left. -/
theorem Move.of_failed {state : State} (h : Move budget state event .failed) :
    ∃ attempt, state = .downloading attempt ∧ event = .fetchFailed ∧ ¬ attempt + 1 < budget := by
  cases h with
  | giveUp hlast => exact ⟨_, rfl, rfl, hlast⟩

theorem toNat_attempt {n : Nat} (h : n < budget.toNat) :
    (UInt32.ofNat n).toNat = n ∧ UInt32.ofNat n < budget := by
  have hnat : (UInt32.ofNat n).toNat = n := UInt32.toNat_ofNat_of_lt' (h.trans budget.toNat_lt)
  exact ⟨hnat, UInt32.lt_iff_toNat_lt.mpr (by rwa [hnat])⟩

/-- The one event that makes a machine fail is the failure that uses up its budget. -/
theorem moved_failed_iff (hstate : m.state = .downloading 0) (hbudget : 0 < m.budget)
    (events : List Event) (event : Event) :
    (∃ source, ((m.handles events).handle event).1 = .moved source .failed) ↔
      event = .fetchFailed ∧ .fetchSucceeded ∉ events ∧
        events.count .fetchFailed + 1 = m.budget.toNat := by
  have hending : (m.handles events).state = ending m.budget.toNat 0 events :=
    state_handles hstate hbudget
  constructor
  · rintro ⟨source, hmoved⟩
    rcases (m.handles events).handle_cases event with ⟨target, hmove, heq⟩ | heq
    · rw [heq] at hmoved
      cases hmoved
      rw [handles_budget] at hmove
      obtain ⟨a, ha, rfl, hlast⟩ := hmove.of_failed
      obtain ⟨hlt, hmem, rfl⟩ := ending_eq_downloading_iff.mp (hending.symm.trans ha)
      obtain ⟨hnat, hbelow⟩ := toNat_attempt hlt
      have hspent := congrArg UInt32.toNat (last_attempt hbelow hlast)
      rw [toNat_next_attempt hbelow, hnat, failures_of_not_mem hmem] at hspent
      exact ⟨rfl, hmem, hspent⟩
    · rw [heq] at hmoved
      cases hmoved
  · rintro ⟨rfl, hmem, hspent⟩
    rw [← failures_of_not_mem hmem] at hspent
    obtain ⟨hnat, hbelow⟩ := toNat_attempt (show failures events < m.budget.toNat by omega)
    have hdownloading := hending.trans (ending_eq_downloading_iff.mpr ⟨by omega, hmem, rfl⟩)
    have hlast : ¬ UInt32.ofNat (failures events) + 1 < (m.handles events).budget := by
      rw [handles_budget, UInt32.lt_iff_toNat_lt, toNat_next_attempt hbelow, hnat]
      omega
    exact ⟨_, congrArg Prod.fst (handle_fetchFailed_of_not_lt hdownloading hlast)⟩

/-- A machine that an event has just brought to its first download. -/
inductive Begun (budget : UInt32) : Machine → Prop
  | moved {m m' : Machine} (past : List Event) (event : Event) {source : State}
      (made : Made budget m)
      (handled : (m.handles past).handle event = (.moved source (.downloading 0), m')) :
      Begun budget m'

theorem Begun.sound (h : Begun budget m) :
    m.Sound ∧ m.state = .downloading 0 ∧ m.budget = max budget 1 := by
  cases h with
  | @moved m₀ _ past event _ made handled =>
    have hsound := (made.sound.handles past).handle event
    have hstate := state_of_moved (congrArg Prod.fst handled)
    have hbudget := handle_budget (m₀.handles past) event
    rw [handled] at hsound hstate hbudget
    exact ⟨hsound, hstate, by rw [hbudget, handles_budget, made.budget_eq]⟩

/-- A machine that has just begun to download. If as many fetches fail before one succeeds as it has
budget for, it fails, and this at the last of them and at no other event of any run; if not and one
succeeds, it succeeds; else it is at the attempt that comes after these failures. No other event
counts: the machine ignores it, and is where it would be without it. -/
theorem downloads_counted (h : Begun budget m) (events : List Event) :
    m.budget = max budget 1 ∧
    (m.budget.toNat ≤ failures events → (m.handles events).state = .failed ∧
      ∃ before after source, events = before ++ .fetchFailed :: after ∧
        .fetchSucceeded ∉ before ∧ before.count .fetchFailed + 1 = m.budget.toNat ∧
        ((m.handles before).handle .fetchFailed).1 = .moved source .failed) ∧
    (failures events < m.budget.toNat → .fetchSucceeded ∈ events →
      (m.handles events).state = .succeeded) ∧
    (failures events < m.budget.toNat → .fetchSucceeded ∉ events →
      ∃ attempt, (m.handles events).state = .downloading attempt ∧
        attempt.toNat = failures events) ∧
    (∀ before event, (∃ source, ((m.handles before).handle event).1 = .moved source .failed) ↔
      event = .fetchFailed ∧ .fetchSucceeded ∉ before ∧
        before.count .fetchFailed + 1 = m.budget.toNat) ∧
    (∀ before event, event.isFetch = false →
      (m.handles before).handle event =
        (.ignored (m.handles before).state event, m.handles before)) ∧
    m.handles events = m.handles (events.filter Event.isFetch) := by
  obtain ⟨hsound, hstate, hbudget⟩ := h.sound
  have hbegun : m.state.hasBegun := by
    rw [hstate]
    rfl
  have hpositive := UInt32.lt_iff_toNat_lt.mp hsound.budget
  have hending : (m.handles events).state = ending m.budget.toNat 0 events :=
    state_handles hstate hsound.budget
  have hfailed := moved_failed_iff hstate hsound.budget
  refine ⟨hbudget, fun hspent => ⟨?_, ?_⟩, fun hlt hmem => ?_, fun hlt hmem => ?_, hfailed,
    fun before event => handle_of_not_isFetch (hasBegun_handles hbegun before),
    (handles_filter_isFetch hbegun events).symm⟩
  · rw [hending, ending, Nat.zero_add, if_pos hspent]
  · obtain ⟨before, after, rfl, hmem, hcount⟩ :=
      exists_failure (show m.budget.toNat - 1 < failures events by omega)
    have hlast : before.count .fetchFailed + 1 = m.budget.toNat := by omega
    obtain ⟨source, hmoved⟩ := (hfailed before .fetchFailed).mpr ⟨rfl, hmem, hlast⟩
    exact ⟨before, after, source, rfl, hmem, hlast, hmoved⟩
  · rw [hending, ending, Nat.zero_add, if_neg (Nat.not_le.mpr hlt), if_pos hmem]
  · exact ⟨_, hending.trans (ending_eq_downloading_iff.mpr ⟨hlt, hmem, rfl⟩),
      (toNat_attempt hlt).1⟩

/-- The machine of a device that has come back and was told of a trigger, with two attempts. -/
def twice : Machine :=
  (restore true 2).handles [.subscribed, .triggerAccepted]

theorem begun_twice : Begun 2 twice :=
  .moved [.subscribed] .triggerAccepted (.restore true) rfl

/-- It fails at the second failure, whatever else it is told of, and a success that comes before
that ends the count. -/
theorem downloads_counted_twice :
    (twice.handles [.fetchFailed, .triggerAccepted, .fetchFailed, .fetchSucceeded]).state =
        .failed ∧
      (twice.handles [.fetchFailed, .triggerAccepted, .fetchSucceeded, .fetchFailed]).state =
        .succeeded ∧
      ∃ attempt, (twice.handles [.fetchFailed, .triggerAccepted]).state = .downloading attempt ∧
        attempt.toNat = 1 := by
  obtain ⟨-, hfailed, -⟩ :=
    downloads_counted begun_twice [.fetchFailed, .triggerAccepted, .fetchFailed, .fetchSucceeded]
  obtain ⟨-, -, hsucceeded, -⟩ :=
    downloads_counted begun_twice [.fetchFailed, .triggerAccepted, .fetchSucceeded, .fetchFailed]
  obtain ⟨-, -, -, hdownloading, -⟩ :=
    downloads_counted begun_twice [.fetchFailed, .triggerAccepted]
  exact ⟨(hfailed (by decide)).1, hsucceeded (by decide) (by decide),
    hdownloading (by decide) (by decide)⟩

end UpdateAgent.Machine
