import UpdateAgent.Bench.Basic
import Mathlib.Data.List.Basic

/-!
# Connections of the bench and their readers

The messages that wait on a connection are in the order of the times at which they are due, whatever
has been delivered (`Sound`). A reader with a deadline hears the first of them if it is due by then,
at the time at which it is due (`listen_message`), and nothing until the deadline otherwise
(`listen_silence`); the message counts even if it is due at the deadline itself.
-/

namespace UpdateAgent.Bench

namespace Connection

variable {c : Connection} {queue : List Pending} {pending : Pending} {now time : Nat}

/-! ## The queue -/

/-- No message is due before one that waits in front of it. -/
def InOrder (queue : List Pending) : Prop :=
  queue.Pairwise fun p q => p.due ≤ q.due

theorem mem_insert {p : Pending} : p ∈ insert pending queue ↔ p = pending ∨ p ∈ queue := by
  induction queue with
  | nil => simp [insert]
  | cons first rest ih =>
    rw [insert]
    split
    · rw [List.mem_cons, ih, List.mem_cons]
      exact or_left_comm
    · exact List.mem_cons

theorem InOrder.insert (h : InOrder queue) (pending : Pending) :
    InOrder (insert pending queue) := by
  induction queue with
  | nil => exact List.pairwise_singleton ..
  | cons first rest ih =>
    obtain ⟨hfirst, hrest⟩ := List.pairwise_cons.mp h
    rw [Connection.insert]
    split
    · rename_i hle
      refine List.pairwise_cons.mpr ⟨fun p hp => ?_, ih hrest⟩
      rcases mem_insert.mp hp with rfl | hp
      · exact hle
      · exact hfirst p hp
    · rename_i hlt
      refine List.pairwise_cons.mpr ⟨fun p hp => ?_, h⟩
      have hle : pending.due ≤ first.due := Nat.le_of_not_le hlt
      rcases List.mem_cons.mp hp with rfl | hp
      · exact hle
      · exact Nat.le_trans hle (hfirst p hp)

/-- The messages wait in order, and the connection was not closed. -/
structure Sound (c : Connection) : Prop where
  inOrder : InOrder c.queue
  isOpen : c.isClosed = false

theorem Sound.deliver (h : c.Sound) (now : Nat) (d : Delivery) : (c.deliver now d).Sound where
  inOrder := h.inOrder.insert _
  isOpen := h.isOpen

theorem Sound.deliveries (h : c.Sound) (now : Nat) (deliveries : List Delivery) :
    (deliveries.foldl (Connection.deliver now) c).Sound := by
  induction deliveries generalizing c with
  | nil => exact h
  | cons d rest ih => exact ih (h.deliver now d)

theorem Sound.drop (h : c.Sound) (now : Nat) : (c.drop now).Sound where
  inOrder := h.inOrder
  isOpen := h.isOpen

theorem sound_opened (script : ConnectionScript) (now : Nat) : (opened script now).Sound :=
  Sound.deliveries (c := { script, lostFrom := script.dropAfter.map (now + ·) })
    ⟨List.Pairwise.nil, rfl⟩ now script.inbound

/-- Whether the connection is lost with the call or not, only its loss is different. -/
theorem Sound.dropIf (h : c.Sound) (now : Nat) (isDrop : Bool) :
    (if isDrop then c.drop now else c).Sound := by
  split
  · exact h.drop now
  · exact h

theorem Sound.subscribe (h : c.Sound) (now : Nat) (topic : String) :
    (c.subscribe now topic).2.Sound := by
  rw [Connection.subscribe]
  split
  · exact h
  · dsimp only
    split
    · exact ⟨h.inOrder, h.isOpen⟩
    · refine Sound.dropIf (Sound.deliveries ?_ now _) now _
      exact ⟨h.inOrder, h.isOpen⟩

theorem Sound.publish (h : c.Sound) (now : Nat) (message : Message) :
    (c.publish now message).2.Sound := by
  rw [Connection.publish]
  split
  · exact h
  · dsimp only
    split
    · exact ⟨h.inOrder, h.isOpen⟩
    · refine Sound.dropIf (Sound.deliveries ?_ now _) now _
      split
      · exact Sound.deliver (c := { c with publishes := c.publishes + 1 })
          ⟨h.inOrder, h.isOpen⟩ now { message }
      · exact ⟨h.inOrder, h.isOpen⟩

theorem unsubscribe_isClosed (c : Connection) (now : Nat) (topic : String) :
    (c.unsubscribe now topic).2.isClosed = c.isClosed := by
  rw [Connection.unsubscribe]
  split
  · rfl
  · split <;> rfl

/-! ## What there is to read -/

/-- A connection that is not lost by some time was not lost before. -/
theorem isDead_of_le (h : c.isDead time = false) (hle : now ≤ time) : c.isDead now = false := by
  obtain ⟨hopen, hlost⟩ := Bool.or_eq_false_iff.mp h
  refine Bool.or_eq_false_iff.mpr ⟨hopen, ?_⟩
  unfold isLost at hlost ⊢
  cases hfrom : c.lostFrom with
  | none => rfl
  | some lost =>
    rw [hfrom] at hlost
    have hlt := of_decide_eq_false hlost
    exact decide_eq_false (by omega)

theorem lt_lostFrom {lost : Nat} (h : c.isDead now = false) (hfrom : c.lostFrom = some lost) :
    now < lost := by
  have hlost : c.isLost now = false := (Bool.or_eq_false_iff.mp h).2
  unfold isLost at hlost
  rw [hfrom] at hlost
  exact Nat.lt_of_not_le (of_decide_eq_false hlost)

section

variable {p : Pending} {rest : List Pending}

theorem arrival_of_due (hdead : c.isDead now = false) (hqueue : c.queue = p :: rest)
    (hdue : p.due ≤ now) : c.arrival now = .message p.message { c with queue := rest } := by
  rw [arrival, hdead, hqueue]
  exact if_pos hdue

/-- The reader waits for the first message as long as the connection is there until then. -/
theorem arrival_of_lt (hdead : c.isDead p.due = false) (hqueue : c.queue = p :: rest)
    (hlt : now < p.due) : c.arrival now = .later (some p.due) := by
  rw [arrival, isDead_of_le hdead (Nat.le_of_lt hlt), hqueue]
  dsimp only
  rw [if_neg Bool.false_ne_true, if_neg (Nat.not_le.mpr hlt)]
  cases hfrom : c.lostFrom with
  | none => rfl
  | some lost =>
    have hle : p.due ≤ lost := Nat.le_of_lt (lt_lostFrom hdead hfrom)
    show Arrival.later (some (min lost p.due)) = _
    rw [Nat.min_eq_right hle]

end

/-- A reader who hears nothing by some time is told of no time until then. -/
theorem arrival_of_silence (hdead : c.isDead time = false)
    (hqueue : ∀ p ∈ c.queue.head?, time < p.due) (hle : now ≤ time) :
    ∃ next, c.arrival now = .later next ∧ ∀ t ∈ next, time < t := by
  rw [arrival, isDead_of_le hdead hle, if_neg Bool.false_ne_true]
  cases hq : c.queue with
  | nil => exact ⟨c.lostFrom, rfl, fun lost hfrom => lt_lostFrom hdead hfrom⟩
  | cons p rest =>
    have hlt : time < p.due := hqueue p (by rw [hq]; rfl)
    refine ⟨_, if_neg (by omega), fun t ht => ?_⟩
    cases ht
    cases hfrom : c.lostFrom with
    | none => exact hlt
    | some lost => exact Nat.lt_min.mpr ⟨lt_lostFrom hdead hfrom, hlt⟩

end Connection

variable {b b' : Bench} {link : Link} {c : Connection} {deadline time : Nat}

/-! ## Calls -/

theorem waitUntil_of_le (hlimit : time ≤ b.limit) :
    b.waitUntil time = (some (), { b with clock := max b.clock time }) := by
  unfold waitUntil
  split
  · rename_i hle
    rw [Nat.max_eq_left hle]
  · rename_i hlt
    rw [if_neg (Nat.not_lt.mpr hlimit), Nat.max_eq_right (by omega)]

/-- A connection that was opened is as its script describes it. -/
theorem sound_of_connect {login : Login} (h : b.connect login = (some (.ok link), b')) :
    ∃ c, b'.connections[link]? = some c ∧ c.Sound := by
  unfold connect at h
  dsimp only at h
  split at h
  · cases h
  · rename_i b₁ _
    split at h
    · cases h
    · cases h
      refine ⟨_, ?_, Connection.sound_opened (b.connects.headD unreachable) b₁.clock⟩
      show (b₁.connections ++ [_])[b₁.connections.length]? = _
      exact List.getElem?_concat_length

/-- What a call on a connection answers and leaves. -/
theorem onConnection_eq (hc : b.connections[link]? = some c)
    (call : Connection → Except BusError Unit × Connection)
    (r : Except BusError Unit → Record) :
    b.onConnection link call r = (some (call c).1, (b.update link (call c).2).record (r (call c).1))
    := by
  rw [onConnection, hc]

theorem sound_of_onConnection {call : Connection → Except BusError Unit × Connection}
    {r : Except BusError Unit → Record} {result : Except BusError Unit}
    (hc : b.connections[link]? = some c) (hcall : (call c).2.Sound)
    (h : b.onConnection link call r = (some result, b')) :
    ∃ c', b'.connections[link]? = some c' ∧ c'.Sound := by
  rw [onConnection_eq hc] at h
  cases h
  obtain ⟨hlt, -⟩ := List.getElem?_eq_some_iff.mp hc
  exact ⟨_, List.getElem?_set_self hlt, hcall⟩

/-! ## What calls on a connection leave -/

/-- The bench at another time, when a connection has become `c` and these were logged, the latest
first; nothing else has changed. -/
def after (b : Bench) (link : Link) (c : Connection) (time : Nat) (records : List Record) : Bench :=
  { b with
    clock := time
    connections := b.connections.set link c
    log := records.map (⟨time, b.state, ·⟩) ++ b.log }

section After

variable {records : List Record} {credentials : Credentials}

theorem after_self (hc : b.connections[link]? = some c) (time : Nat) :
    b.after link c time [] = { b with clock := time } := by
  obtain ⟨hlt, rfl⟩ := List.getElem?_eq_some_iff.mp hc
  unfold after
  rw [List.set_getElem_self hlt]
  rfl

/-- Messages that were heard before do not show. -/
theorem after_after (b : Bench) (link : Link) (c c' : Connection) (time time' : Nat)
    (records : List Record) :
    (b.after link c time []).after link c' time' records = b.after link c' time' records := by
  unfold after
  rw [List.set_set]
  rfl

theorem after_connection (h : link < b.connections.length) :
    (b.after link c time records).connections[link]? = some c :=
  List.getElem?_set_self h

theorem close_after (h : link < b.connections.length) (hopen : c.isClosed = false) :
    (b.after link c time records).close link =
      { b with isOpen := b.isOpen - 1 }.after link { c with isClosed := true } time
        (.close :: records) := by
  rw [close, after_connection h]
  dsimp only
  rw [hopen, if_neg Bool.false_ne_true]
  unfold after update record
  rw [List.set_set]
  rfl

theorem unsubscribe_after (h : link < b.connections.length) (topic : String) :
    answer (.unsubscribe link topic) (b.after link c time records) =
      (some (c.unsubscribe time topic).1,
        b.after link (c.unsubscribe time topic).2 time
          (.unsubscribe topic (c.unsubscribe time topic).1 :: records)) := by
  refine (onConnection_eq (after_connection h) _ _).trans ?_
  unfold after update record
  rw [List.set_set]
  rfl

theorem store_after (h : b.stores ∉ b.storeScript.failedStores) :
    answer (.store credentials) (b.after link c time records) =
      (some (.ok ()),
        { b with stores := b.stores + 1, stored := some credentials }.after link c time
          (.store credentials true :: records)) := by
  simp [answer, store, after, record, h]

/-- A put that fails is counted, but changes nothing that is stored. -/
theorem store_after_of_mem (h : b.stores ∈ b.storeScript.failedStores) :
    answer (.store credentials) (b.after link c time records) =
      (some (.error diskFailure),
        { b with stores := b.stores + 1 }.after link c time
          (.store credentials false :: records)) := by
  simp [answer, store, after, record, h]

end After

/-! ## A reader with a deadline -/

/-- The first message is heard if it is due by the deadline, at the time at which it is due or at
once. -/
theorem listen_message {p : Pending} {rest : List Pending} (hc : b.connections[link]? = some c)
    (hqueue : c.queue = p :: rest) (hdue : p.due ≤ deadline)
    (hlost : c.isDead (max b.clock p.due) = false) (hlimit : p.due ≤ b.limit) :
    b.listen link (some deadline) = (some (.ok (some p.message)),
      b.after link { c with queue := rest } (max b.clock p.due) []) := by
  -- Either it is there already, or the reader waits for it and then looks again.
  by_cases hle : p.due ≤ b.clock
  · rw [Nat.max_eq_left hle] at hlost ⊢
    simp only [listen, hc, Connection.arrival_of_due hlost hqueue hle]
    rfl
  · have hlt : b.clock < p.due := Nat.lt_of_not_le hle
    have hmax : max b.clock p.due = p.due := Nat.max_eq_right (Nat.le_of_lt hlt)
    rw [hmax] at hlost ⊢
    have hnext : (some p.due).filter (fun t => (some deadline).all (t ≤ ·)) = some p.due :=
      Option.filter_some_pos (decide_eq_true hdue)
    simp only [listen, hc, Connection.arrival_of_lt hlost hqueue hlt, hnext,
      waitUntil_of_le hlimit, hmax, Connection.arrival_of_due hlost hqueue (Nat.le_refl _)]
    rfl

/-- Nothing is heard until the deadline if the first message is due only after it. -/
theorem listen_silence (hc : b.connections[link]? = some c)
    (hqueue : ∀ p ∈ c.queue.head?, deadline < p.due) (hlost : c.isDead deadline = false)
    (hclock : b.clock ≤ deadline) (hlimit : deadline ≤ b.limit) :
    b.listen link (some deadline) = (some (.ok none), b.after link c deadline []) := by
  obtain ⟨next, harrival, hafter⟩ := Connection.arrival_of_silence hlost hqueue hclock
  have hnext : next.filter (fun t => (some deadline).all (t ≤ ·)) = none := by
    refine Option.filter_eq_none_iff.mpr fun t ht => ?_
    have hlt := hafter t ht
    simp
    omega
  rw [after_self hc]
  simp only [listen, hc, harrival, hnext, waitUntil_of_le hlimit, Nat.max_eq_right hclock]

end UpdateAgent.Bench
