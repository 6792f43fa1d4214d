import UpdateAgent.Proofs.Machine

/-!
# Progress of the provisioning machine

The states are ranked in the order in which a device comes to them (`State.rank`), and every move
goes up (`Move.rank_lt`). What a machine is made with holds of it whatever happens (`Sound`): its
watchers see its state, and a download under way is one that its budget allows. So the number of
moves of a whole run is bounded by the budget (`moves_le`), and attempts are counted without
overflow.
-/

namespace UpdateAgent.Machine

variable {m m' : Machine} {budget : UInt32} {state target : State} {event : Event}

/-! ## The order of the states -/

/-- How far a state is, if there can be this many downloads. The two terminal states come after all
of them. -/
def State.rank (downloads : Nat) : State → Nat
  | .unregistered => 0
  | .awaitingReply => 1
  | .registered => 2
  | .awaitingTrigger => 3
  | .downloading attempt => 4 + attempt.toNat
  | .succeeded | .failed => 4 + downloads

/-- The download under way, if any, is one that the budget allows. -/
def State.Within (budget : UInt32) (state : State) : Prop :=
  ∀ attempt, state = .downloading attempt → attempt < budget

theorem State.Within.rank_le (h : state.Within budget) :
    state.rank budget.toNat ≤ 4 + budget.toNat := by
  cases state with
  | downloading attempt =>
    have hlt := UInt32.lt_iff_toNat_lt.mp (h attempt rfl)
    simp only [State.rank]
    omega
  | _ =>
    simp only [State.rank]
    omega

/-- Attempts are shown as they are counted from one. -/
theorem State.text_downloading {attempt : UInt32} (h : attempt < budget) :
    (State.downloading attempt).text =
      "downloading (attempt " ++ toString (attempt.toNat + 1) ++ ")" := by
  rw [← toNat_next_attempt h]
  unfold State.text
  rfl

/-- A move leads to a download that the budget allows, if to any. -/
theorem Move.within (h : Move budget state event target) (hbudget : 0 < budget) :
    target.Within budget := by
  intro attempt htarget
  cases h with
  | trigger =>
    cases htarget
    exact hbudget
  | retry hlt =>
    cases htarget
    exact hlt
  | _ => cases htarget

/-- Every move goes up. -/
theorem Move.rank_lt (h : Move budget state event target) (hstate : state.Within budget)
    {downloads : Nat} (hdownloads : budget.toNat ≤ downloads) :
    state.rank downloads < target.rank downloads := by
  cases h with
  | retry hlt =>
    have hnext := toNat_next_attempt (hstate _ rfl)
    simp only [State.rank]
    omega
  | giveUp hlt =>
    have hattempt := UInt32.lt_iff_toNat_lt.mp (hstate _ rfl)
    simp only [State.rank]
    omega
  | finish =>
    have hattempt := UInt32.lt_iff_toNat_lt.mp (hstate _ rfl)
    simp only [State.rank]
    omega
  | _ => simp [State.rank]

/-- Nothing follows a terminal state. -/
theorem Move.not_isTerminal (h : Move budget state event target) : state.isTerminal = false := by
  cases h <;> rfl

/-! ## What holds of a machine -/

/-- What holds of a machine from the time it is made. -/
structure Sound (m : Machine) : Prop where
  watched : m.watched.value = m.state
  budget : 0 < m.budget
  within : m.state.Within m.budget

theorem Sound.handle (h : m.Sound) (event : Event) : (m.handle event).2.Sound := by
  rcases m.handle_cases event with ⟨target, hmove, hmoved⟩ | hignored
  · rw [hmoved]
    exact ⟨rfl, h.budget, hmove.within h.budget⟩
  · rw [hignored]
    exact h

/-- A machine as it is made: for a device that is new, or for one that has come back. -/
inductive Made (budget : UInt32) : Machine → Prop
  | new : Made budget (new budget)
  | restore (isRegistered : Bool) : Made budget (restore isRegistered budget)

theorem Made.budget_eq (h : Made budget m) : m.budget = max budget 1 := by
  cases h with
  | new => rfl
  | restore isRegistered => cases isRegistered <;> rfl

theorem Made.sound (h : Made budget m) : m.Sound := by
  have hbudget : 0 < m.budget := by
    rw [h.budget_eq]
    exact new_budget_pos budget
  cases h with
  | new => exact ⟨rfl, hbudget, nofun⟩
  | restore isRegistered => cases isRegistered <;> exact ⟨rfl, hbudget, nofun⟩

/-! ## Runs of events -/

/-- The machine after some events. -/
def handles (m : Machine) (events : List Event) : Machine :=
  events.foldl (fun m event => (m.handle event).2) m

/-- What the events did, one after the other. -/
def transitions (m : Machine) : List Event → List Transition
  | [] => []
  | event :: events => (m.handle event).1 :: (m.handle event).2.transitions events

/-- How often the machine moves. -/
def moves (m : Machine) (events : List Event) : Nat :=
  (m.transitions events).countP (!·.isIgnored)

@[simp]
theorem handles_cons (m : Machine) (event : Event) (events : List Event) :
    m.handles (event :: events) = (m.handle event).2.handles events :=
  rfl

theorem moves_cons_of_moved {source : State} (h : m.handle event = (.moved source target, m'))
    (events : List Event) : m.moves (event :: events) = m'.moves events + 1 := by
  simp [moves, transitions, h, Transition.isIgnored]

theorem moves_cons_of_ignored (h : m.handle event = (.ignored state event, m))
    (events : List Event) : m.moves (event :: events) = m.moves events := by
  simp [moves, transitions, h, Transition.isIgnored]

theorem Sound.handles (h : m.Sound) (events : List Event) : (m.handles events).Sound := by
  induction events generalizing m with
  | nil => exact h
  | cons event events ih => exact ih (h.handle event)

theorem handles_budget (m : Machine) (events : List Event) :
    (m.handles events).budget = m.budget := by
  induction events generalizing m with
  | nil => rfl
  | cons event events ih => exact (ih _).trans (m.handle_budget event)

/-- A terminal state is never left. -/
theorem handles_of_isTerminal (h : m.state.isTerminal) (events : List Event) :
    m.handles events = m := by
  induction events with
  | nil => rfl
  | cons event events ih =>
    rcases m.handle_cases event with ⟨target, hmove, -⟩ | hignored
    · rw [hmove.not_isTerminal] at h
      cases h
    · rw [handles_cons, hignored]
      exact ih

/-- Each move takes the machine up by one rank at least. -/
theorem moves_add_rank_le (h : m.Sound) (events : List Event) :
    m.moves events + m.state.rank m.budget.toNat ≤
      (m.handles events).state.rank m.budget.toNat := by
  induction events generalizing m with
  | nil => simp [moves, transitions, handles]
  | cons event events ih =>
    have hrest := ih (h.handle event)
    rw [handles_cons]
    rcases m.handle_cases event with ⟨target, hmove, hmoved⟩ | hignored
    · have hup := hmove.rank_lt h.within (Nat.le_refl _)
      rw [moves_cons_of_moved hmoved]
      rw [hmoved] at hrest ⊢
      simp only [moveTo_state, moveTo_budget] at hrest ⊢
      omega
    · rw [moves_cons_of_ignored hignored]
      rw [hignored] at hrest ⊢
      exact hrest

/-- There are not many more moves than downloads. -/
theorem moves_le (h : m.Sound) (events : List Event) : m.moves events ≤ 4 + m.budget.toNat := by
  have hmoves := moves_add_rank_le h events
  have hrank := (h.handles events).within.rank_le
  rw [handles_budget] at hrank
  omega

end UpdateAgent.Machine
