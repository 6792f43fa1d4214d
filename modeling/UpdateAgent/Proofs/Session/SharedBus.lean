import UpdateAgent.Proofs.Session.Standing
import UpdateAgent.Proofs.Session.Trace
import UpdateAgent.Message.Inbound

/-!
# A bus that devices share

Any number of devices on one bus, which hands every message to all who are subscribed to its topic,
the sender among them, and a backend that answers each request on the registration topic by a reply
with new credentials. What happens is a list of events, in whatever order; the calls of one device
are a part of it.
-/

namespace UpdateAgent.Fleet

open Program Trace

variable {ι : Type}

/-! ## The bus -/

/-- What happens on a bus that devices share. -/
inductive Event (ι : Type)
  /-- A device makes a call and gets the reply to it. If the call fails, it may have been lost on
  its way or carried out all the same. -/
  | call (i : ι) (e : Exchange World) (isLost : Bool)
  /-- The backend answers a request with credentials. -/
  | answer (request : Bytes) (c : Credentials) (reply : Bytes)

/-- A connection as the bus sees it. Its messages may arrive in any order. -/
structure Connection (ι : Type) where
  owner : ι
  link : Link
  topics : List String := []
  inbox : List Message := []

/-- The open connections, the requests that are not answered yet, and what was issued in answer to
which request. -/
structure Bus (ι : Type) where
  connections : List (Connection ι) := []
  requests : List Bytes := []
  issued : List (Bytes × Credentials) := []

/-- Hands a message to a connection. -/
def Connection.hear (k : Connection ι) (message : Message) : Connection ι :=
  if message.topic ∈ k.topics then { k with inbox := k.inbox ++ [message] } else k

namespace Bus

variable [DecidableEq ι]

/-- A device has a connection that is subscribed to the topic. -/
def Subscribed (bus : Bus ι) (i : ι) (topic : String) : Prop :=
  ∃ k ∈ bus.connections, k.owner = i ∧ topic ∈ k.topics

instance (bus : Bus ι) (i : ι) (topic : String) : Decidable (bus.Subscribed i topic) :=
  inferInstanceAs (Decidable (∃ k ∈ bus.connections, _))

/-- Changes a connection. -/
def update (bus : Bus ι) (i : ι) (link : Link) (f : Connection ι → Connection ι) : Bus ι :=
  { bus with
    connections := bus.connections.map fun k => if k.owner = i ∧ k.link = link then f k else k }

/-- Removes a connection. -/
def remove (bus : Bus ι) (i : ι) (link : Link) : Bus ι :=
  { bus with connections := bus.connections.filter fun k => ¬ (k.owner = i ∧ k.link = link) }

/-- Hands a message to everyone who is subscribed to its topic. -/
def deliver (bus : Bus ι) (message : Message) : Bus ι :=
  { bus with connections := bus.connections.map (·.hear message) }

/-- Carries out a call of a registration. What is published on the registration topic is a
request. -/
def carryOut (bus : Bus ι) (i : ι) : Exchange World → Bus ι
  | ⟨.connect _, .ok link⟩ =>
    let others := bus.remove i link
    { others with connections := { owner := i, link } :: others.connections }
  | ⟨.subscribe link topic, _⟩ => bus.update i link fun k => { k with topics := topic :: k.topics }
  | ⟨.unsubscribe link topic, _⟩ =>
    bus.update i link fun k => { k with topics := k.topics.filter (· ≠ topic) }
  | ⟨.publish _ topic payload, _⟩ =>
    let bus := bus.deliver ⟨topic, payload⟩
    if topic = Topic.register then { bus with requests := payload :: bus.requests } else bus
  | ⟨.receiveBy link _, .ok (some message)⟩ =>
    bus.update i link fun k => { k with inbox := k.inbox.erase message }
  | ⟨.close link, _⟩ => bus.remove i link
  | _ => bus

end Bus

/-- The bus did not do what it was asked. -/
def isFailure : Exchange World → Bool
  | ⟨.subscribe .., .error _⟩ | ⟨.unsubscribe .., .error _⟩ | ⟨.publish .., .error _⟩ => true
  | _ => false

namespace Bus

variable [DecidableEq ι]

/-- The bus after an event. -/
def step (bus : Bus ι) : Event ι → Bus ι
  | .call i e isLost => if isLost ∧ isFailure e then bus else bus.carryOut i e
  | .answer request c reply =>
    { bus.deliver ⟨Topic.register, reply⟩ with
      requests := bus.requests.erase request
      issued := (request, c) :: bus.issued }

/-- What may happen: only what the bus has for a device arrives there, and the backend answers each
request once, by a successful reply with credentials that it has not issued before. -/
def Allows (bus : Bus ι) : Event ι → Prop
  | .call i e _ => ∀ message ∈ message? e, ∃ k ∈ bus.connections, k.owner = i ∧
      e.call.link? = some k.link ∧ message ∈ k.inbox
  | .answer request c reply => request ∈ bus.requests ∧
      RegistrationReply.decode reply = .ok c ∧ ∀ p ∈ bus.issued, p.2 ≠ c

instance (bus : Bus ι) : DecidablePred bus.Allows
  | .call _ e _ => inferInstanceAs (Decidable (∀ message ∈ message? e, _))
  | .answer .. => inferInstanceAs (Decidable (_ ∧ _))

/-- The bus after some events. -/
def after (bus : Bus ι) (history : List (Event ι)) : Bus ι :=
  history.foldl step bus

/-- Everything that happens may happen. -/
def Lawful (bus : Bus ι) : List (Event ι) → Prop
  | [] => True
  | event :: history => bus.Allows event ∧ (bus.step event).Lawful history

instance decidableLawful : (bus : Bus ι) → DecidablePred bus.Lawful
  | _, [] => isTrue trivial
  | bus, event :: history =>
    have := decidableLawful (bus.step event) history
    inferInstanceAs (Decidable (bus.Allows event ∧ (bus.step event).Lawful history))

/-- The requests that were answered while a device was subscribed to the registration topic, with
what was issued in answer. -/
def answered (i : ι) (bus : Bus ι) : List (Event ι) → List (Bytes × Credentials)
  | [] => []
  | .call j e isLost :: history => answered i (bus.step (.call j e isLost)) history
  | .answer request c reply :: history =>
    (if bus.Subscribed i Topic.register then [(request, c)] else []) ++
      answered i (bus.step (.answer request c reply)) history

end Bus

/-- The calls of one of the devices. -/
def calls [DecidableEq ι] (i : ι) (history : List (Event ι)) : List (Exchange World) :=
  history.filterMap fun
    | .call j e _ => if j = i then some e else none
    | .answer .. => none

/-! ## Along a history -/

@[simp]
theorem calls_append [DecidableEq ι] (i : ι) (past rest : List (Event ι)) :
    calls i (past ++ rest) = calls i past ++ calls i rest :=
  List.filterMap_append

theorem exists_event_of_mem_calls [DecidableEq ι] {i : ι} {history : List (Event ι)}
    {e : Exchange World} (h : e ∈ calls i history) :
    ∃ past isLost future, history = past ++ .call i e isLost :: future := by
  obtain ⟨event, hevent, heq⟩ := List.mem_filterMap.mp h
  obtain ⟨past, future, rfl⟩ := List.append_of_mem hevent
  cases event with
  | call j e' isLost =>
    by_cases hj : j = i
    · simp only [if_pos hj, Option.some.injEq] at heq
      subst hj heq
      exact ⟨past, isLost, future, rfl⟩
    · simp [hj] at heq
  | answer request c reply => simp at heq

namespace Bus

variable [DecidableEq ι]

@[simp]
theorem after_append (bus : Bus ι) (past rest : List (Event ι)) :
    bus.after (past ++ rest) = (bus.after past).after rest :=
  List.foldl_append

@[simp]
theorem after_singleton (bus : Bus ι) (event : Event ι) : bus.after [event] = bus.step event :=
  rfl

theorem answered_append (i : ι) (bus : Bus ι) (past rest : List (Event ι)) :
    answered i bus (past ++ rest) = answered i bus past ++ answered i (bus.after past) rest := by
  induction past generalizing bus with
  | nil => rfl
  | cons event past ih =>
    cases event with
    | call j e isLost => exact ih _
    | answer request c reply =>
      rw [List.cons_append, answered, answered, ih, List.append_assoc]
      rfl

theorem answered_subset {i : ι} {bus : Bus ι} {past : List (Event ι)} (rest : List (Event ι)) :
    answered i bus past ⊆ answered i bus (past ++ rest) := by
  rw [answered_append]
  exact List.subset_append_left _ _

theorem lawful_append {bus : Bus ι} {past rest : List (Event ι)} :
    bus.Lawful (past ++ rest) ↔ bus.Lawful past ∧ (bus.after past).Lawful rest := by
  induction past generalizing bus with
  | nil => simp [Lawful, after]
  | cons event past ih =>
    rw [List.cons_append, Lawful, Lawful, ih, and_assoc]
    rfl

end Bus

/-! ## What an event changes -/

section

variable {bus : Bus ι} {i j : ι} {e : Exchange World} {message published : Message} {link : Link}

namespace Bus

/-- A message is on its way to a device. -/
def Has (bus : Bus ι) (i : ι) (message : Message) : Prop :=
  ∃ k ∈ bus.connections, k.owner = i ∧ message ∈ k.inbox

theorem has_of_deliver (h : (bus.deliver published).Has i message) :
    bus.Has i message ∨ published = message ∧ bus.Subscribed i message.topic := by
  obtain ⟨_, hheard, howner, hmessage⟩ := h
  obtain ⟨k, hk, rfl⟩ := List.mem_map.mp hheard
  by_cases htopic : published.topic ∈ k.topics
  · rw [Connection.hear, if_pos htopic] at howner hmessage
    rcases List.mem_append.mp hmessage with hold | hnew
    · exact .inl ⟨k, hk, howner, hold⟩
    · obtain rfl := List.mem_singleton.mp hnew
      exact .inr ⟨rfl, k, hk, howner, htopic⟩
  · rw [Connection.hear, if_neg htopic] at howner hmessage
    exact .inl ⟨k, hk, howner, hmessage⟩

variable [DecidableEq ι]

theorem has_of_update {f : Connection ι → Connection ι} (howner : ∀ k, (f k).owner = k.owner)
    (hinbox : ∀ k, (f k).inbox ⊆ k.inbox) (h : (bus.update j link f).Has i message) :
    bus.Has i message := by
  obtain ⟨_, hupdated, heq, hmessage⟩ := h
  obtain ⟨k, hk, rfl⟩ := List.mem_map.mp hupdated
  by_cases hlink : k.owner = j ∧ k.link = link
  · rw [if_pos hlink] at heq hmessage
    exact ⟨k, hk, (howner k).symm.trans heq, hinbox k hmessage⟩
  · rw [if_neg hlink] at heq hmessage
    exact ⟨k, hk, heq, hmessage⟩

theorem has_of_remove (h : (bus.remove j link).Has i message) : bus.Has i message := by
  obtain ⟨k, hk, h⟩ := h
  exact ⟨k, (List.mem_filter.mp hk).1, h⟩

/-- What is on its way to a device was so before, or was published just now on a topic to which the
device is subscribed. -/
theorem has_of_carryOut (h : (bus.carryOut j e).Has i message) :
    bus.Has i message ∨
      (∃ link, e.call = .publish link message.topic message.payload) ∧
        bus.Subscribed i message.topic := by
  obtain ⟨call, r⟩ := e
  cases call with
  | connect login =>
    cases r with
    | error => exact .inl h
    | ok link =>
      obtain ⟨k, hk, howner, hmessage⟩ := h
      rcases List.mem_cons.mp hk with rfl | hk
      · cases hmessage
      · exact .inl (has_of_remove ⟨k, hk, howner, hmessage⟩)
  | subscribe link topic =>
    refine .inl (has_of_update ?_ ?_ h)
    · exact fun _ => rfl
    · exact fun _ => List.Subset.refl _
  | unsubscribe link topic =>
    refine .inl (has_of_update ?_ ?_ h)
    · exact fun _ => rfl
    · exact fun _ => List.Subset.refl _
  | publish link topic payload =>
    have hdeliver : (bus.deliver ⟨topic, payload⟩).Has i message := by
      simp only [carryOut] at h
      split at h <;> exact h
    refine (has_of_deliver hdeliver).imp_right ?_
    rintro ⟨rfl, hsubscribed⟩
    exact ⟨⟨link, rfl⟩, hsubscribed⟩
  | receiveBy link deadline =>
    match r with
    | .error _ | .ok none => exact .inl h
    | .ok (some received) =>
      refine .inl (has_of_update ?_ ?_ h)
      · exact fun _ => rfl
      · exact fun _ => List.erase_subset
  | close link => exact .inl (has_of_remove h)
  | _ => exact .inl h

theorem requests_carryOut {request : Bytes} (h : request ∈ (bus.carryOut j e).requests) :
    request ∈ bus.requests ∨ ∃ link, e.call = .publish link Topic.register request := by
  obtain ⟨call, r⟩ := e
  cases call with
  | connect login => cases r <;> exact .inl h
  | publish link topic payload =>
    simp only [carryOut] at h
    split at h
    · rename_i htopic
      rcases List.mem_cons.mp h with rfl | h
      · exact .inr ⟨link, by rw [htopic]⟩
      · exact .inl h
    · exact .inl h
  | receiveBy link deadline =>
    match r with
    | .error _ | .ok none | .ok (some _) => exact .inl h
  | _ => exact .inl h

theorem issued_carryOut (bus : Bus ι) (i : ι) (e : Exchange World) :
    (bus.carryOut i e).issued = bus.issued := by
  obtain ⟨call, r⟩ := e
  cases call with
  | connect login => cases r <;> rfl
  | publish link topic payload =>
    simp only [carryOut]
    split <;> rfl
  | receiveBy link deadline =>
    match r with
    | .error _ | .ok none | .ok (some _) => rfl
  | _ => rfl

/-- A call is lost or carried out. -/
theorem step_call (bus : Bus ι) (i : ι) (e : Exchange World) (isLost : Bool) :
    bus.step (.call i e isLost) = bus ∨ bus.step (.call i e isLost) = bus.carryOut i e :=
  ite_eq_or_eq ..

theorem has_of_call {isLost : Bool} (h : (bus.step (.call j e isLost)).Has i message) :
    bus.Has i message ∨
      (∃ link, e.call = .publish link message.topic message.payload) ∧
        bus.Subscribed i message.topic := by
  rcases bus.step_call j e isLost with heq | heq <;> rw [heq] at h
  · exact .inl h
  · exact has_of_carryOut h

theorem requests_call {isLost : Bool} {request : Bytes}
    (h : request ∈ (bus.step (.call j e isLost)).requests) :
    request ∈ bus.requests ∨ ∃ link, e.call = .publish link Topic.register request := by
  rcases bus.step_call j e isLost with heq | heq <;> rw [heq] at h
  · exact .inl h
  · exact requests_carryOut h

theorem issued_call (bus : Bus ι) (i : ι) (e : Exchange World) (isLost : Bool) :
    (bus.step (.call i e isLost)).issued = bus.issued := by
  rcases bus.step_call i e isLost with heq | heq <;> rw [heq]
  exact issued_carryOut bus i e

end Bus

end

end UpdateAgent.Fleet
