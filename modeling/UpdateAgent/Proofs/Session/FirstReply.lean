import UpdateAgent.Proofs.Monitor
import UpdateAgent.Proofs.Session.Registration

/-!
# The reply that a registration takes

A reply does not say which request it answers. On each of its connections a registration takes the
first successful reply that it hears, and it stores nothing else (`run_takes`).
-/

namespace UpdateAgent.Registration

open Program Trace

variable {identity : DeviceIdentity} {config : Config} {link : Link} {deadline : Nat} {m : Machine}
  {c : Credentials} {messages : List Message}

/-- The credentials that a message offers to a device that registers. -/
def offer? (message : Message) : Option Credentials :=
  if message.topic = Topic.register then (RegistrationReply.decode message.payload).toOption
  else none

theorem offer?_eq_some_iff {message : Message} :
    offer? message = some c ↔
      message.topic = Topic.register ∧ RegistrationReply.decode message.payload = .ok c := by
  rw [offer?]
  split
  · rename_i htopic
    rcases RegistrationReply.decode message.payload with error | c' <;>
      simp [Except.toOption, htopic]
  · rename_i htopic
    simp [htopic]

/-- The first credentials that are offered by messages in this order. -/
def firstOffer? (messages : List Message) : Option Credentials :=
  messages.findSome? offer?

theorem firstOffer?_concat (h : firstOffer? messages = none) (message : Message) :
    firstOffer? (messages ++ [message]) = offer? message := by
  rw [firstOffer?] at h
  simp [firstOffer?, List.findSome?_append, h]

/-- What has been heard since a connection was opened last. -/
def hearing (messages : List Message) (e : Exchange World) : List Message :=
  match e.call, message? e with
  | .connect _, _ => []
  | _, some message => messages ++ [message]
  | _, none => messages

/-- What was heard on the connection that was opened last. -/
def latest (trace : List (Exchange World)) : List Message :=
  trace.foldl hearing []

theorem latest_append (first rest : List (Exchange World)) :
    latest (first ++ rest) = rest.foldl hearing (latest first) :=
  List.foldl_append

theorem mem_hearing {e : Exchange World} {message : Message}
    (h : message ∈ hearing messages e) : message ∈ messages ∨ message? e = some message := by
  rw [hearing] at h
  split at h
  · cases h
  · rename_i hheard _
    exact (List.mem_append.mp h).imp_right fun h => by rw [hheard, List.mem_singleton.mp h]
  · exact .inl h

/-- A registration publishes its request and nothing else, and stores only the credentials that were
offered first on the connection that it opened last. -/
def taking (identity : DeviceIdentity) : Monitor World (List Message) where
  step := hearing
  Allows messages
    | .publish _ topic payload => topic = Topic.register ∧ payload = identity.request.bytes
    | .store c => firstOffer? messages = some c
    | _ => True

/-- A message that makes the first offer is taken, whatever comes of the put; any other is passed
over. -/
theorem acceptReply_takes {message : Message} (hnone : firstOffer? messages = none)
    (htopic : message.topic = Topic.register) :
    (taking identity).Obeys (messages ++ [message]) (acceptReply .awaitingReply message.payload)
      fun taken messages' => taken = .ok none → firstOffer? messages' = none := by
  rw [acceptReply, if_neg (not_not.mpr rfl)]
  rcases hdecode : RegistrationReply.decode message.payload with error | c
  · refine Monitor.obeys_pure fun _ => ?_
    rw [firstOffer?_concat hnone, offer?, if_pos htopic, hdecode]
    rfl
  · refine Monitor.obeys_request_bind ?_ fun stored _ => ?_
    · exact (firstOffer?_concat hnone message).trans (offer?_eq_some_iff.mpr ⟨htopic, hdecode⟩)
    · cases stored <;> exact Monitor.obeys_pure fun heq => by cases heq

/-- A turn goes again only if nothing has been offered yet. -/
theorem replyTurn_takes (hnone : firstOffer? messages = none) :
    (taking identity).Obeys messages (replyTurn .awaitingReply link deadline)
      fun next messages' => next = .again () → firstOffer? messages' = none := by
  refine Monitor.obeys_request_bind trivial fun received _ => ?_
  match received with
  | .error _ => exact Monitor.obeys_pure nofun
  | .ok none => exact Monitor.obeys_pure nofun
  | .ok (some message) =>
    show (taking identity).Obeys (messages ++ [message]) _ _
    dsimp only
    split
    · rename_i htopic
      refine Monitor.obeys_pure fun _ => ?_
      rw [firstOffer?_concat hnone, offer?, if_neg htopic]
    · rename_i htopic
      refine Monitor.obeys_bind (acceptReply_takes hnone (not_not.mp htopic)) ?_
      intro taken messages' htaken
      match taken with
      | .error _ => exact Monitor.obeys_pure nofun
      | .ok none => exact Monitor.obeys_pure fun _ => htaken rfl
      | .ok (some _) =>
        refine Monitor.obeys_bind (Q := fun _ _ => True) ?_ fun _ _ _ => Monitor.obeys_pure nofun
        exact Monitor.obeys_discard (Monitor.obeys_request trivial fun _ _ => trivial)

theorem exchange_takes (hnone : firstOffer? messages = none) :
    (taking identity).Obeys messages (exchange identity config .awaitingReply link)
      fun _ _ => True := by
  refine Monitor.obeys_request_bind trivial fun subscribed _ => ?_
  cases subscribed with
  | error error => exact Monitor.obeys_pure trivial
  | ok =>
    refine Monitor.obeys_request_bind ⟨rfl, rfl⟩ fun published _ => ?_
    cases published with
    | error error => exact Monitor.obeys_pure trivial
    | ok =>
      refine Monitor.obeys_request_bind trivial fun now _ => ?_
      refine Monitor.obeys_iterate (fun _ messages => firstOffer? messages = none) hnone ?_
      intro _ messages hnone
      refine (replyTurn_takes hnone).mono fun next messages' hnext => ?_
      cases next with
      | again => exact hnext rfl
      | finish => trivial

/-- An attempt has a connection of its own, on which nothing was heard before. -/
theorem attempt_takes (messages : List Message) :
    (taking identity).Obeys messages (attempt identity config .awaitingReply)
      fun _ _ => True := by
  refine Monitor.obeys_request_bind trivial fun connected _ => ?_
  cases connected with
  | error error => exact Monitor.obeys_pure trivial
  | ok link =>
    refine Monitor.obeys_bind (exchange_takes rfl) fun _ _ _ => ?_
    exact Monitor.obeys_request_bind trivial fun _ _ => Monitor.obeys_pure trivial

/-- If another attempt follows, a reply is still awaited. -/
theorem tryOnce_takes (hstate : m.state = .unregistered ∨ m.state = .awaitingReply)
    (messages : List Message) :
    Session.Obeys (taking identity) m messages (tryOnce identity config)
      fun o m' _ => o = none → m'.state = .awaitingReply := by
  have hstarted := Machine.handle_registrationStarted hstate
  refine Session.obeys_tell_bind (fun _ _ _ => trivial) fun _ => ?_
  refine Session.obeys_get_bind ?_
  rw [hstarted]
  refine Session.obeys_lift_bind (attempt_takes _) fun result _ _ => ?_
  match result with
  | .ok c =>
    refine Session.obeys_tell_bind (fun _ _ _ => trivial) fun _ => ?_
    exact Session.obeys_pure nofun
  | .error (.storage _) => exact Session.obeys_pure nofun
  | .error (.bus _) => exact Session.obeys_pure fun _ => hstarted
  | .error .timeout => exact Session.obeys_pure fun _ => hstarted

theorem attempts_takes {more : Nat}
    (hstate : m.state = .unregistered ∨ m.state = .awaitingReply) (messages : List Message) :
    Session.Obeys (taking identity) m messages (attempts identity config more)
      fun _ _ _ => True := by
  induction more generalizing m messages with
  | zero =>
    refine Session.obeys_bind (tryOnce_takes hstate messages) fun o _ _ _ => ?_
    cases o <;> exact Session.obeys_pure trivial
  | succ more ih =>
    refine Session.obeys_bind (tryOnce_takes hstate messages) fun o m' _ hnext => ?_
    cases o with
    | some result => exact Session.obeys_pure trivial
    | none =>
      refine Session.obeys_request_bind trivial fun _ _ => ?_
      exact ih (.inr (hnext rfl)) _

theorem run_of_state_ne (hunregistered : m.state ≠ .unregistered)
    (hawaiting : m.state ≠ .awaitingReply) :
    (run identity config).run m = pure (.error (.invalidState m.state), m) := by
  obtain ⟨state, budget, watched⟩ := m
  cases state with
  | unregistered => exact absurd rfl hunregistered
  | awaitingReply => exact absurd rfl hawaiting
  | _ => rfl

/-- Whatever a registration has done so far, it published its request at most, and stored what was
offered first on a connection at most. -/
theorem run_takes {trace : List (Exchange World)} (h : Began ((run identity config).run m) trace) :
    (taking identity).Lawful [] trace := by
  have hobeys : Session.Obeys (taking identity) m [] (run identity config) fun _ _ _ => True := by
    unfold Session.Obeys
    by_cases hunregistered : m.state = .unregistered
    · rw [run_of_state (.inl hunregistered)]
      exact attempts_takes (.inl hunregistered) []
    by_cases hawaiting : m.state = .awaitingReply
    · rw [run_of_state (.inr hawaiting)]
      exact attempts_takes (.inr hawaiting) []
    rw [run_of_state_ne hunregistered hawaiting]
    exact Monitor.obeys_pure trivial
  exact hobeys.lawful h (Monitor.expected_of_forall fun _ _ => trivial)

/-- A registration that returns credentials has stored them. -/
theorem store_mem_of_run {m' : Machine} {trace : List (Exchange World)}
    (h : Runs ((run identity config).run m) trace (.ok c, m')) :
    ⟨.store c, .ok ()⟩ ∈ trace := by
  by_cases hstate : m.state = .unregistered ∨ m.state = .awaitingReply
  · obtain ⟨hok, -⟩ := (run_puts hstate).1 _ _ _ h
    obtain ⟨hputs, -⟩ := (hok c).mp rfl
    obtain ⟨⟨call, r⟩, hmem, hput⟩ := List.mem_filterMap.mp (hputs ▸ List.mem_singleton_self _)
    cases call with
    | store c' =>
      cases hput
      exact hmem
    | _ => cases hput
  · obtain ⟨hunregistered, hawaiting⟩ := not_or.mp hstate
    rw [run_of_state_ne hunregistered hawaiting] at h
    obtain ⟨-, heq⟩ := Program.runs_pure.mp h
    cases heq

end UpdateAgent.Registration
