import UpdateAgent.Proofs.Message.Request
import UpdateAgent.Proofs.Session.FirstReply
import UpdateAgent.Proofs.Session.SharedBus
import Mathlib.Data.List.Nodup

/-!
# Devices that register over one bus

Every device hears the replies to all requests, and takes the first one. So what it stores was
issued to one of the devices, and it is its own if no other request was answered while it was
subscribed (`run_shared`).
-/

namespace UpdateAgent.Fleet

open Program Trace Registration

variable {ι : Type}

/-! ## Where credentials come from -/

/-- What devices have heard, and what they may still hear, goes back to answers of the backend, each
with new credentials. -/
structure Sourced [DecidableEq ι] (identity : ι → DeviceIdentity) (past : List (Event ι)) :
    Prop where
  inbox : ∀ i message c, (Bus.after {} past).Has i message → offer? message = some c →
    ∃ request, (request, c) ∈ Bus.answered i {} past
  heard : ∀ i message c, message ∈ latest (calls i past) → offer? message = some c →
    ∃ request, (request, c) ∈ Bus.answered i {} past
  requests : ∀ request ∈ (Bus.after {} past).requests, ∃ j, request = (identity j).request.bytes
  answered : ∀ i, Bus.answered i {} past ⊆ (Bus.after {} past).issued
  issued : ∀ p ∈ (Bus.after {} past).issued, ∃ j, p.1 = (identity j).request.bytes
  fresh : ((Bus.after {} past).issued.map Prod.snd).Nodup

section

variable [DecidableEq ι] {identity : ι → DeviceIdentity} {past : List (Event ι)}

theorem sourced_nil : Sourced identity [] where
  inbox := by
    rintro i message c ⟨_, hk, _⟩
    cases hk
  heard := nofun
  requests := nofun
  answered _ := List.nil_subset _
  issued := nofun
  fresh := List.nodup_nil

/-- A call that a device may make keeps it so: what it publishes is no reply, and what it hears was
on its way. -/
theorem Sourced.call (h : Sourced identity past) {i : ι} {e : Exchange World} {isLost : Bool}
    (hbus : (Bus.after {} past).Allows (.call i e isLost))
    (hdevice : (taking (identity i)).Allows (latest (calls i past)) e.call) :
    Sourced identity (past ++ [.call i e isLost]) := by
  have hanswered (j : ι) :
      Bus.answered j {} (past ++ [.call i e isLost]) = Bus.answered j {} past := by
    rw [Bus.answered_append]
    exact List.append_nil _
  have hissued :
      (Bus.after {} (past ++ [.call i e isLost])).issued = (Bus.after {} past).issued := by
    rw [Bus.after_append]
    exact Bus.issued_call ..
  have hpublish {link : Link} {topic : String} {payload : Bytes}
      (hcall : e.call = .publish link topic payload) :
      topic = Topic.register ∧ payload = (identity i).request.bytes := by
    rw [hcall] at hdevice
    exact hdevice
  constructor
  case inbox =>
    intro j message c hhas hoffer
    rw [hanswered]
    rw [Bus.after_append, Bus.after_singleton] at hhas
    rcases Bus.has_of_call hhas with hhad | ⟨⟨link, hcall⟩, -⟩
    · exact h.inbox j message c hhad hoffer
    · obtain ⟨-, hdecode⟩ := offer?_eq_some_iff.mp hoffer
      rw [(hpublish hcall).2, DeviceIdentity.decode_request] at hdecode
      cases hdecode
  case heard =>
    intro j message c hmessage hoffer
    rw [hanswered]
    rw [calls_append] at hmessage
    by_cases hj : i = j
    · subst hj
      have hcalls : calls i [.call i e isLost] = [e] := by simp [calls]
      rw [hcalls, latest_append] at hmessage
      rcases mem_hearing hmessage with hold | hnew
      · exact h.heard i message c hold hoffer
      · obtain ⟨k, hk, howner, -, hinbox⟩ := hbus message hnew
        exact h.inbox i message c ⟨k, hk, howner, hinbox⟩ hoffer
    · have hcalls : calls j [.call i e isLost] = [] := by simp [calls, hj]
      rw [hcalls, List.append_nil] at hmessage
      exact h.heard j message c hmessage hoffer
  case requests =>
    intro request hrequest
    rw [Bus.after_append, Bus.after_singleton] at hrequest
    rcases Bus.requests_call hrequest with hold | ⟨link, hcall⟩
    · exact h.requests request hold
    · exact ⟨i, (hpublish hcall).2⟩
  case answered =>
    intro j
    rw [hanswered, hissued]
    exact h.answered j
  case issued =>
    rw [hissued]
    exact h.issued
  case fresh =>
    rw [hissued]
    exact h.fresh

/-- So does an answer of the backend. -/
theorem Sourced.answer (h : Sourced identity past) {request reply : Bytes} {c : Credentials}
    (hbus : (Bus.after {} past).Allows (.answer request c reply)) :
    Sourced identity (past ++ [.answer request c reply]) := by
  obtain ⟨hrequest, hdecode, hfresh⟩ := hbus
  have hanswered (i : ι) : Bus.answered i {} (past ++ [.answer request c reply]) =
      Bus.answered i {} past ++
        if (Bus.after {} past).Subscribed i Topic.register then [(request, c)] else [] := by
    rw [Bus.answered_append]
    exact congrArg _ (List.append_nil _)
  have hissued : (Bus.after {} (past ++ [.answer request c reply])).issued =
      (request, c) :: (Bus.after {} past).issued := by
    rw [Bus.after_append]
    rfl
  have hold {i : ι} {c' : Credentials} (hpast : ∃ r, (r, c') ∈ Bus.answered i {} past) :
      ∃ r, (r, c') ∈ Bus.answered i {} (past ++ [.answer request c reply]) :=
    hpast.imp fun _ hr => Bus.answered_subset _ hr
  constructor
  case inbox =>
    intro i message c' hhas hoffer
    rw [Bus.after_append, Bus.after_singleton] at hhas
    rcases Bus.has_of_deliver hhas with hhad | ⟨rfl, hsubscribed⟩
    · exact hold (h.inbox i message c' hhad hoffer)
    · obtain ⟨-, hoffered⟩ := offer?_eq_some_iff.mp hoffer
      obtain rfl := Except.ok.inj (hdecode.symm.trans hoffered)
      refine ⟨request, ?_⟩
      rw [hanswered, if_pos hsubscribed]
      exact List.mem_append_right _ (List.mem_singleton.mpr rfl)
  case heard =>
    intro i message c' hmessage hoffer
    rw [calls_append] at hmessage
    have hcalls : calls i [.answer request c reply] = [] := rfl
    rw [hcalls, List.append_nil] at hmessage
    exact hold (h.heard i message c' hmessage hoffer)
  case requests =>
    intro r hr
    rw [Bus.after_append, Bus.after_singleton] at hr
    exact h.requests r (List.mem_of_mem_erase hr)
  case answered =>
    intro i p hp
    rw [hanswered] at hp
    rw [hissued]
    rcases List.mem_append.mp hp with hp | hp
    · exact List.mem_cons_of_mem _ (h.answered i hp)
    · split at hp
      · exact List.mem_cons.mpr (.inl (List.mem_singleton.mp hp))
      · cases hp
  case issued =>
    rw [hissued]
    exact List.forall_mem_cons.mpr ⟨h.requests request hrequest, h.issued⟩
  case fresh =>
    rw [hissued, List.map_cons, List.nodup_cons]
    refine ⟨fun hmem => ?_, h.fresh⟩
    obtain ⟨p, hp, heq⟩ := List.mem_map.mp hmem
    exact hfresh p hp heq

/-- It stays so as long as everything that happens may happen and every device keeps to what a
registration does. -/
theorem Sourced.run {rest : List (Event ι)} (h : Sourced identity past)
    (hbus : (Bus.after {} past).Lawful rest)
    (hdevices : ∀ i, (taking (identity i)).Lawful (latest (calls i past)) (calls i rest)) :
    Sourced identity (past ++ rest) := by
  induction rest generalizing past with
  | nil => rwa [List.append_nil]
  | cons event rest ih =>
    obtain ⟨hevent, hrest⟩ := hbus
    have hafter : (Bus.after {} past).step event = Bus.after {} (past ++ [event]) := by
      rw [Bus.after_append, Bus.after_singleton]
    rw [hafter] at hrest
    have hsplit (i : ι) :
        (taking (identity i)).Lawful (latest (calls i past)) (calls i [event]) ∧
          (taking (identity i)).Lawful (latest (calls i (past ++ [event]))) (calls i rest) := by
      have hlawful := hdevices i
      rw [← List.singleton_append, calls_append, Monitor.lawful_append] at hlawful
      rw [calls_append, latest_append]
      exact hlawful
    have hnow : Sourced identity (past ++ [event]) := by
      cases event with
      | call i e isLost =>
        have hcalls : calls i [.call i e isLost] = [e] := by simp [calls]
        have hlawful := (hsplit i).1
        rw [hcalls] at hlawful
        exact h.call hevent hlawful.1
      | answer request c reply => exact h.answer hevent
    rw [List.append_cons]
    exact ih hnow hrest fun i => (hsplit i).2

/-! ## What devices store -/

variable {config : ι → Config} {machine : ι → Machine} {history rest : List (Event ι)} {i : ι}
  {c : Credentials}

/-- Devices that register on a bus. -/
structure Registers (identity : ι → DeviceIdentity) (config : ι → Config) (machine : ι → Machine)
    (history : List (Event ι)) : Prop where
  bus : Bus.Lawful {} history
  devices : ∀ i,
    Began ((Registration.run (identity i) (config i)).run (machine i)) (calls i history)

theorem Registers.of_append (h : Registers identity config machine (past ++ rest)) :
    Registers identity config machine past where
  bus := (Bus.lawful_append.mp h.bus).1
  devices i := by
    have hbegan := h.devices i
    rw [calls_append] at hbegan
    exact hbegan.of_append

theorem Registers.sourced (h : Registers identity config machine history) :
    Sourced identity history := by
  rw [← List.nil_append history]
  exact sourced_nil.run h.bus fun i => run_takes (h.devices i)

/-- No two answers issue the same credentials. -/
theorem Sourced.request_eq (h : Sourced identity past) {request request' : Bytes}
    (hissued : (request, c) ∈ (Bus.after {} past).issued)
    (hissued' : (request', c) ∈ (Bus.after {} past).issued) : request = request' :=
  congrArg Prod.fst (List.inj_on_of_nodup_map h.fresh hissued hissued' rfl)

/-- What a device stores was offered to it first, and goes back to an answer. -/
theorem Registers.stores {r : Except StoreError Unit} {isLost : Bool}
    (h : Registers identity config machine (past ++ .call i ⟨.store c, r⟩ isLost :: rest)) :
    firstOffer? (latest (calls i past)) = some c ∧
      ∃ j, ((identity j).request.bytes, c) ∈ Bus.answered i {} past := by
  have hsourced := h.of_append.sourced
  have hlawful := run_takes (h.devices i)
  have hcalls : calls i (.call i ⟨.store c, r⟩ isLost :: rest) =
      ⟨.store c, r⟩ :: calls i rest := by simp [calls]
  rw [calls_append, hcalls, Monitor.lawful_append] at hlawful
  have hfirst : firstOffer? (latest (calls i past)) = some c := hlawful.2.1
  refine ⟨hfirst, ?_⟩
  obtain ⟨message, hmessage, hoffer⟩ := List.exists_of_findSome?_eq_some hfirst
  obtain ⟨request, hanswered⟩ := hsourced.heard i message c hmessage hoffer
  obtain ⟨j, rfl⟩ := hsourced.issued _ (hsourced.answered i hanswered)
  exact ⟨j, hanswered⟩

/-- Until it stored credentials, no request of another device was answered while a device was
subscribed. -/
def Alone (identity : ι → DeviceIdentity) (history : List (Event ι)) (i : ι) : Prop :=
  ∀ past c r isLost rest, history = past ++ .call i ⟨.store c, r⟩ isLost :: rest →
    ∀ p ∈ Bus.answered i {} past, p.1 = (identity i).request.bytes

theorem alone_of_forall (h : ∀ p ∈ Bus.answered i {} history, p.1 = (identity i).request.bytes) :
    Alone identity history i := by
  rintro past c r isLost rest rfl p hp
  exact h p (Bus.answered_subset _ hp)

/-- Then what it stores was issued in answer to its own request. -/
theorem Registers.issued_own {r : Except StoreError Unit}
    (h : Registers identity config machine history) (hstore : ⟨.store c, r⟩ ∈ calls i history)
    (halone : Alone identity history i) :
    ((identity i).request.bytes, c) ∈ (Bus.after {} history).issued := by
  obtain ⟨past, isLost, rest, rfl⟩ := exists_event_of_mem_calls hstore
  obtain ⟨-, j, hanswered⟩ := h.stores
  rw [← halone past c r isLost rest rfl _ hanswered]
  exact h.sourced.answered i (Bus.answered_subset _ hanswered)

/-- What a device stores was offered to it first, of all that it heard on the connection that it
opened last, and it was issued in answer to a request of one of the devices, and to no other, while
the device was subscribed. If no other request was answered while it was, then it was issued in
answer to its own; if that is so for two devices, what they return differs. -/
theorem run_shared (hmac : Function.Injective fun i => (identity i).mac)
    (h : Registers identity config machine history) :
    (∀ i past c r isLost rest, history = past ++ .call i ⟨.store c, r⟩ isLost :: rest →
      firstOffer? (latest (calls i past)) = some c ∧
      (∃ j, ((identity j).request.bytes, c) ∈ Bus.answered i {} past ∧
        ∀ request, (request, c) ∈ (Bus.after {} history).issued →
          request = (identity j).request.bytes) ∧
      (Alone identity history i → ((identity i).request.bytes, c) ∈ Bus.answered i {} past)) ∧
    ∀ i j c c' m m', i ≠ j → Alone identity history i → Alone identity history j →
      Runs ((Registration.run (identity i) (config i)).run (machine i)) (calls i history)
        (.ok c, m) →
      Runs ((Registration.run (identity j) (config j)).run (machine j)) (calls j history)
        (.ok c', m') →
      c ≠ c' := by
  constructor
  · rintro i past c r isLost rest rfl
    obtain ⟨hfirst, j, hanswered⟩ := h.stores
    refine ⟨hfirst, ⟨j, hanswered, fun request hissued => ?_⟩, fun halone => ?_⟩
    · exact h.sourced.request_eq hissued (h.sourced.answered i (Bus.answered_subset _ hanswered))
    · rw [← halone past c r isLost rest rfl _ hanswered]
      exact hanswered
  · rintro i j c c' m m' hne hi hj hruns hruns' rfl
    have hissued := h.issued_own (store_mem_of_run hruns) hi
    have hissued' := h.issued_own (store_mem_of_run hruns') hj
    exact hne (hmac (DeviceIdentity.mac_of_request (h.sourced.request_eq hissued hissued')))

end

/-! ## Two devices -/

/-- One of two devices. -/
inductive Twin
  | first
  | second
  deriving DecidableEq

namespace Twin

/-- They have different addresses. -/
def identity : Twin → DeviceIdentity
  | first => rehearsalIdentity
  | second => { mac := ⟨[2, 0, 0, 0, 0, 2], rfl⟩, version := "1" }

/-- Each makes one attempt, under a name of its own. -/
def config (i : Twin) : Config where
  bootstrap := { clientId := i.identity.mac.compact }
  replyTimeout := 10
  retry := { maxAttempts := 1 }

/-- What is issued in answer to the request of each. -/
def own : Twin → Credentials
  | first => issued
  | second => ⟨"another", "user", "password", "another"⟩

/-- The request of a device. -/
def request (i : Twin) : Bytes :=
  i.identity.request.bytes

/-- The reply to it. -/
def reply (i : Twin) : Bytes :=
  (RegistrationReply.document i.own).bytes

/-- The registration of a device. -/
def session (i : Twin) : Program World (Except Error Credentials × Machine) :=
  (Registration.run i.identity i.config).run (.new 1)

/-- A call that succeeds. -/
def call (i : Twin) (c : WorldCall) (r : WorldReply c) : Event Twin :=
  .call i ⟨c, r⟩ false

/-- A device publishes its request. -/
def asks (i : Twin) : List (Event Twin) :=
  [i.call (.announce .awaitingReply) (), i.call (.connect i.config.bootstrap) (.ok 0),
    i.call (.subscribe 0 Topic.register) (.ok ()),
    i.call (.publish 0 Topic.register i.request) (.ok ()), i.call .now (0 : Nat)]

/-- The backend answers it. -/
def answer (i : Twin) : Event Twin :=
  .answer i.request i.own i.reply

/-- A device hears these payloads, the last of which is a reply, and takes it. -/
def hears (i : Twin) (payloads : List Bytes) (c : Credentials) : List (Event Twin) :=
  payloads.map (fun payload =>
      i.call (.receiveBy 0 10) (.ok (some ⟨Topic.register, payload⟩))) ++
    [i.call (.store c) (.ok ()), i.call (.unsubscribe 0 Topic.register) (.ok ()),
      i.call (.close 0) (), i.call (.announce .registered) ()]

/-- The devices register one after the other. -/
def apart : List (Event Twin) :=
  first.asks ++ [first.answer] ++ first.hears [first.request, first.reply] first.own ++
    (second.asks ++ [second.answer] ++ second.hears [second.request, second.reply] second.own)

/-- The devices register at the same time, and both hear the reply to the first one first. -/
def crossed : List (Event Twin) :=
  first.asks ++ second.asks ++ [first.answer, second.answer] ++
    first.hears [first.request, second.request, first.reply] first.own ++
    second.hears [second.request, first.reply] first.own

theorem runs_apart (i : Twin) : Runs i.session (calls i apart) (.ok i.own, rehearsalEnd) := by
  have h : replayed 4 i.session (calls i apart) = (some (.ok i.own, rehearsalEnd), 0) := by
    cases i <;> decide +kernel
  exact runs_of_replayed h

theorem runs_crossed (i : Twin) :
    Runs i.session (calls i crossed) (.ok first.own, rehearsalEnd) := by
  have h : replayed 4 i.session (calls i crossed) = (some (.ok first.own, rehearsalEnd), 0) := by
    cases i <;> decide +kernel
  exact runs_of_replayed h

theorem registers {history : List (Event Twin)} {result : Twin → Except Error Credentials}
    (hbus : Bus.Lawful {} history)
    (hruns : ∀ i, Runs i.session (calls i history) (result i, rehearsalEnd)) :
    Registers identity config (fun _ => .new 1) history :=
  ⟨hbus, fun i => (hruns i).began⟩

end Twin

theorem run_shared_apart :
    Function.Injective (fun i => (Twin.identity i).mac) ∧
      Registers Twin.identity Twin.config (fun _ => .new 1) Twin.apart ∧
      (∀ i, Alone Twin.identity Twin.apart i) ∧
      (∀ i, Runs ((Registration.run (Twin.identity i) (Twin.config i)).run (.new 1))
        (calls i Twin.apart) (.ok i.own, rehearsalEnd)) ∧
      Twin.first.own ≠ Twin.second.own := by
  have hmac : Function.Injective fun i => (Twin.identity i).mac := by
    intro i j h
    cases i <;> cases j <;> first | rfl | cases h
  have hbus : Bus.Lawful {} Twin.apart := by decide +kernel
  have hregisters := Twin.registers hbus Twin.runs_apart
  have halone (i : Twin) : Alone Twin.identity Twin.apart i := by
    apply alone_of_forall
    cases i <;> decide +kernel
  refine ⟨hmac, hregisters, halone, Twin.runs_apart, ?_⟩
  exact (run_shared hmac hregisters).2 .first .second _ _ _ _ nofun (halone .first)
    (halone .second) (Twin.runs_apart .first) (Twin.runs_apart .second)

/-- A reply is taken whosever request it answers: both devices store what was issued to one. -/
theorem run_shared_crossed :
    Twin.first.identity.mac ≠ Twin.second.identity.mac ∧
      Registers Twin.identity Twin.config (fun _ => .new 1) Twin.crossed ∧
      (Bus.after {} Twin.crossed).requests = [] ∧
      (∀ i, Runs ((Registration.run (Twin.identity i) (Twin.config i)).run (.new 1))
          (calls i Twin.crossed) (.ok Twin.first.own, rehearsalEnd) ∧
        puts (calls i Twin.crossed) = [(Twin.first.own, .ok ())]) ∧
      (Twin.first.request, Twin.first.own) ∈ (Bus.after {} Twin.crossed).issued ∧
      (Twin.second.request, Twin.first.own) ∉ (Bus.after {} Twin.crossed).issued := by
  have hbus : Bus.Lawful {} Twin.crossed := by decide +kernel
  refine ⟨by decide, Twin.registers hbus Twin.runs_crossed, ?_, ?_, ?_, ?_⟩
  · decide +kernel
  · intro i
    refine ⟨Twin.runs_crossed i, ?_⟩
    cases i <;> decide +kernel
  · decide +kernel
  · decide +kernel

end UpdateAgent.Fleet
