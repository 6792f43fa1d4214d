import UpdateAgent.Proofs.Bench
import UpdateAgent.Proofs.Returns
import UpdateAgent.Proofs.Session.FirstReply

/-!
# The deadline of a registration

An attempt counts its deadline from the time at which its request was published, once for all that
it hears afterwards. Whatever waits in its queue on the bench, it ends when the first successful
reply that is due by the deadline is there, or else at the deadline; a message that is passed over
leaves that time as it was (`ending_pass`, `wait_returns`). The attempt is the three calls up to its
request and then the wait (`published_iff`, `attempt_deadline`). In given surroundings a program has
only one run (`Runs.unique`), so no attempt on the bench does anything else.
-/

namespace UpdateAgent.Registration

open Program Bench Connection

variable {identity : DeviceIdentity} {config : Config} {link : Link} {deadline now : Nat}
  {credentials : Credentials} {message : Message}

/-! ## A turn of the wait -/

section Turn

variable {ω : Type} {answer : Surroundings World ω} {w w₁ w₂ : ω}
  {Q : Next Unit (Except Setback Credentials) → ω → Prop}

theorem replyTurn_silence (hheard : answer (.receiveBy link deadline) w = (some (.ok none), w₁))
    (hQ : Q (.finish (.error .timeout)) w₁) :
    Returns answer w (replyTurn .awaitingReply link deadline) Q :=
  returns_request_bind hheard (returns_pure hQ)

/-- A message that offers nothing is passed over. -/
theorem replyTurn_pass
    (hheard : answer (.receiveBy link deadline) w = (some (.ok (some message)), w₁))
    (hoffer : offer? message = none) (hQ : Q (.again ()) w₁) :
    Returns answer w (replyTurn .awaitingReply link deadline) Q := by
  refine returns_request_bind hheard ?_
  dsimp only
  split
  · exact returns_pure hQ
  · rename_i htopic
    rw [acceptReply, if_neg (not_not.mpr rfl)]
    cases hdecode : RegistrationReply.decode message.payload with
    | error error => exact returns_pure hQ
    | ok c =>
      rw [offer?_eq_some_iff.mpr ⟨not_not.mp htopic, hdecode⟩] at hoffer
      cases hoffer

theorem acceptReply_put {payload : Bytes} {r : Except StoreError Unit}
    (hdecode : RegistrationReply.decode payload = .ok credentials)
    (hput : answer (.store credentials) w = (some r, w₁)) :
    Returns answer w (acceptReply .awaitingReply payload) fun taken w' =>
      taken = r.map (fun _ => some credentials) ∧ w' = w₁ := by
  rw [acceptReply, if_neg (not_not.mpr rfl), hdecode]
  refine returns_request_bind hput ?_
  cases r <;> exact returns_pure ⟨rfl, rfl⟩

/-- Credentials that are offered are taken unless they cannot be stored. -/
theorem replyTurn_put {r : Except StoreError Unit}
    (hheard : answer (.receiveBy link deadline) w = (some (.ok (some message)), w₁))
    (hoffer : offer? message = some credentials)
    (hput : answer (.store credentials) w₁ = (some r, w₂))
    (hnext : Returns answer w₂ (match r with
      | .error error => pure (.finish (.error (.storage error)))
      | .ok () => do
        let _ ← World.unsubscribe link Topic.register
        pure (.finish (.ok credentials))) Q) :
    Returns answer w (replyTurn .awaitingReply link deadline) Q := by
  obtain ⟨htopic, hdecode⟩ := offer?_eq_some_iff.mp hoffer
  refine returns_request_bind hheard ?_
  dsimp only
  rw [if_neg (not_not.mpr htopic)]
  refine returns_bind (acceptReply_put hdecode hput) fun taken w' ⟨htaken, hw⟩ => ?_
  subst htaken hw
  cases r <;> exact hnext

end Turn

/-! ## The wait -/

/-- The first message of a queue that is due by the deadline and offers credentials: when it is due,
and what it offers. -/
def taken? (deadline : Nat) (queue : List Pending) : Option (Nat × Credentials) :=
  queue.findSome? fun p =>
    if p.due ≤ deadline then (offer? p.message).map (p.due, ·) else none

/-- When a wait ends that begins now: when what is taken is there, or at the deadline. -/
def ending (deadline now : Nat) (queue : List Pending) : Nat :=
  match taken? deadline queue with
  | some (due, _) => max now due
  | none => deadline

/-- What an attempt comes to that waited on the bench `b`, ends at this time and takes these
credentials if any, and the bench that it leaves, with its connection closed. If the put succeeds
the attempt returns the credentials. Messages that were not taken do not show. -/
def Concluded (b : Bench) (link : Link) (time : Nat) :
    Option Credentials → Except Setback Credentials → Bench → Prop
  | none, result, b' =>
    result = .error .timeout ∧ ∃ c,
      b' = { b with isOpen := b.isOpen - 1 }.after link c time [.close]
  | some credentials, result, b' =>
    if b.stores ∈ b.storeScript.failedStores then
      result = .error (.storage diskFailure) ∧ ∃ c,
        b' = { b with stores := b.stores + 1, isOpen := b.isOpen - 1 }.after link c time
          [.close, .store credentials false]
    else
      result = .ok credentials ∧ ∃ c r,
        b' = { b with
            stores := b.stores + 1
            stored := some credentials
            isOpen := b.isOpen - 1 }.after link c time
          [.close, .unsubscribe Topic.register r, .store credentials true]

theorem Concluded.of_none {b b' : Bench} {time : Nat} {result : Except Setback Credentials}
    (h : Concluded b link time none result b') :
    result = .error .timeout ∧ b'.clock = time ∧ b'.stored = b.stored := by
  obtain ⟨hresult, _, rfl⟩ := h
  exact ⟨hresult, rfl, rfl⟩

theorem Concluded.of_some {b b' : Bench} {time : Nat} {result : Except Setback Credentials}
    (h : Concluded b link time (some credentials) result b')
    (hstored : b.stores ∉ b.storeScript.failedStores) :
    result = .ok credentials ∧ b'.clock = time ∧ b'.stored = some credentials := by
  obtain ⟨hresult, _, _, rfl⟩ := (if_neg hstored).mp h
  exact ⟨hresult, rfl, rfl⟩

variable {b b₁ : Bench} {c c' : Connection} {p : Pending} {queue rest : List Pending}
  {due time : Nat}

theorem taken?_of_silence (horder : InOrder queue) (hqueue : ∀ p ∈ queue.head?, deadline < p.due) :
    taken? deadline queue = none := by
  cases queue with
  | nil => rfl
  | cons p rest =>
    have hlt : deadline < p.due := hqueue p rfl
    refine List.findSome?_eq_none_iff.mpr fun q hq => if_neg ?_
    rcases List.mem_cons.mp hq with rfl | hq
    · omega
    · have hle := (List.pairwise_cons.mp horder).1 q hq
      omega

theorem taken?_pass (hoffer : offer? p.message = none) :
    taken? deadline (p :: rest) = taken? deadline rest := by
  simp [taken?, hoffer]

theorem taken?_take (hdue : p.due ≤ deadline) (hoffer : offer? p.message = some credentials) :
    taken? deadline (p :: rest) = some (p.due, credentials) := by
  simp [taken?, hdue, hoffer]

theorem mem_of_taken? (h : taken? deadline queue = some (due, credentials)) :
    ∃ p ∈ queue, p.due = due := by
  obtain ⟨p, hp, htaken⟩ := List.exists_of_findSome?_eq_some h
  split at htaken
  · obtain ⟨c, -, heq⟩ := Option.map_eq_some_iff.mp htaken
    cases heq
    exact ⟨p, hp, rfl⟩
  · cases htaken

/-- A message that offers nothing neither extends nor shortens the wait. -/
theorem ending_pass (horder : InOrder (p :: rest)) (hoffer : offer? p.message = none) :
    ending deadline now (p :: rest) = ending deadline (max now p.due) rest := by
  rw [ending, ending, taken?_pass hoffer]
  cases htaken : taken? deadline rest with
  | none => rfl
  | some taken =>
    obtain ⟨q, hq, hdue⟩ := mem_of_taken? htaken
    have hle := (List.pairwise_cons.mp horder).1 q hq
    show max now taken.1 = max (max now p.due) taken.1
    omega

/-- The first message is heard before the wait ends if it is due by the deadline. -/
theorem le_ending (horder : InOrder (p :: rest)) (hnow : now ≤ deadline) (hdue : p.due ≤ deadline) :
    max now p.due ≤ ending deadline now (p :: rest) := by
  rw [ending]
  cases htaken : taken? deadline (p :: rest) with
  | none => exact Nat.max_le.mpr ⟨hnow, hdue⟩
  | some taken =>
    obtain ⟨q, hq, hq'⟩ := mem_of_taken? htaken
    have hle : p.due ≤ q.due := by
      rcases List.mem_cons.mp hq with rfl | hq
      · exact Nat.le_refl _
      · exact (List.pairwise_cons.mp horder).1 q hq
    show max now p.due ≤ max now taken.1
    omega

/-- Nothing that waits is due by the deadline. -/
theorem wait_silence (hlt : link < b.connections.length) (hsound : c.Sound)
    (hqueue : ∀ p ∈ c.queue.head?, deadline < p.due) (hnow : now ≤ deadline)
    (hlost : c.isDead (ending deadline now c.queue) = false)
    (hlimit : ending deadline now c.queue ≤ b.limit) :
    Returns Bench.answer (b.after link c now [])
      (iterate () fun _ => replyTurn .awaitingReply link deadline)
      fun result b' => Concluded b link (ending deadline now c.queue)
        ((taken? deadline c.queue).map Prod.snd) result (b'.close link) := by
  rw [ending, taken?_of_silence hsound.inOrder hqueue] at hlost hlimit ⊢
  have hc : (b.after link c now []).connections[link]? = some c := after_connection hlt
  have hheard := listen_silence hc hqueue hlost hnow hlimit
  rw [after_after] at hheard
  exact returns_iterate (replyTurn_silence hheard ⟨rfl, _, close_after hlt hsound.isOpen⟩)

/-- The credentials are stored, the subscription is given up, and the attempt returns them; or they
are not stored, and that is why it fails. -/
theorem wait_take (hlt : link < b.connections.length) (hopen : c'.isClosed = false)
    (hoffer : offer? message = some credentials)
    (hheard : Bench.answer (.receiveBy link deadline) (b.after link c now []) =
      (some (.ok (some message)), b.after link c' time [])) :
    Returns Bench.answer (b.after link c now [])
      (iterate () fun _ => replyTurn .awaitingReply link deadline)
      fun result b' => Concluded b link time (some credentials) result (b'.close link) := by
  by_cases hfail : b.stores ∈ b.storeScript.failedStores
  · refine returns_iterate (replyTurn_put hheard hoffer (store_after_of_mem hfail) ?_)
    refine returns_pure ((if_pos hfail).mpr ⟨rfl, _, close_after ?_ hopen⟩)
    exact hlt
  · refine returns_iterate (replyTurn_put hheard hoffer (store_after hfail) ?_)
    refine returns_request_bind (unsubscribe_after ?_ Topic.register) (returns_pure ?_)
    · exact hlt
    · refine (if_neg hfail).mpr ⟨rfl, _, _, close_after ?_ ?_⟩
      · exact hlt
      · exact (unsubscribe_isClosed ..).trans hopen

/-- Whatever waits for it, a wait ends when the first offer is there that is due by the deadline, or
else at the deadline. -/
theorem wait_returns (hlt : link < b.connections.length) (hsound : c.Sound)
    (hnow : now ≤ deadline) (hlost : c.isDead (ending deadline now c.queue) = false)
    (hlimit : ending deadline now c.queue ≤ b.limit) :
    Returns Bench.answer (b.after link c now [])
      (iterate () fun _ => replyTurn .awaitingReply link deadline)
      fun result b' => Concluded b link (ending deadline now c.queue)
        ((taken? deadline c.queue).map Prod.snd) result (b'.close link) := by
  -- Each turn hears the first message that waits; the time at which the wait ends stays the same.
  induction hqueue : c.queue generalizing c now with
  | nil =>
    rw [← hqueue]
    refine wait_silence hlt hsound ?_ hnow hlost hlimit
    rw [hqueue]
    exact nofun
  | cons p rest ih =>
    have horder := hsound.inOrder
    rw [hqueue] at horder
    by_cases hdue : p.due ≤ deadline
    · have hsound' : Sound { c with queue := rest } :=
        ⟨(List.pairwise_cons.mp horder).2, hsound.isOpen⟩
      have hle := le_ending horder hnow hdue
      rw [hqueue] at hlost hlimit
      have hlimit' : p.due ≤ b.limit := by omega
      have hc : (b.after link c now []).connections[link]? = some c := after_connection hlt
      have hheard := listen_message hc hqueue hdue (isDead_of_le hlost hle) hlimit'
      rw [after_after] at hheard
      cases hoffer : offer? p.message with
      | some credentials =>
        rw [ending, taken?_take hdue hoffer]
        exact wait_take hlt hsound'.isOpen hoffer hheard
      | none =>
        have hnow' : max now p.due ≤ deadline := Nat.max_le.mpr ⟨hnow, hdue⟩
        rw [ending_pass horder hoffer] at hlost hlimit ⊢
        rw [taken?_pass hoffer]
        refine returns_iterate (replyTurn_pass hheard hoffer ?_)
        exact ih hsound' hnow' hlost hlimit rfl
    · rw [← hqueue]
      refine wait_silence hlt hsound ?_ hnow hlost hlimit
      rw [hqueue]
      rintro _ ⟨⟩
      exact Nat.lt_of_not_le hdue

/-! ## The attempt -/

/-- An attempt on the bench `b` has published its request on a connection, and the bench is then
`b'`. An attempt is made only while a reply is awaited. -/
def Published (identity : DeviceIdentity) (config : Config) (b : Bench) (link : Link)
    (b' : Bench) : Prop :=
  ∃ before b₀,
    Asks (attempt identity config .awaitingReply) before
      (.publish link Topic.register identity.request.bytes) ∧
    Answered Bench.answer b before b₀ ∧
    Bench.answer (.publish link Topic.register identity.request.bytes) b₀ = (some (.ok ()), b')

/-- An attempt publishes nothing after its request. -/
theorem exchange_publish {trace : List (Exchange World)} {topic : String} {payload : Bytes}
    {link' : Link}
    (h : Asks (exchange identity config .awaitingReply link) trace (.publish link' topic payload)) :
    link' = link ∧ trace = [⟨.subscribe link Topic.register, .ok ()⟩] := by
  rcases asks_request_bind.mp h with ⟨-, heq⟩ | ⟨subscribed, _, hsubscribed, rfl⟩
  · cases heq
  cases subscribed with
  | error error => exact (asks_pure.mp hsubscribed).elim
  | ok =>
    rcases asks_request_bind.mp hsubscribed with ⟨rfl, heq⟩ | ⟨published, _, hpublished, rfl⟩
    · cases heq
      exact ⟨rfl, rfl⟩
    cases published with
    | error error => exact (asks_pure.mp hpublished).elim
    | ok =>
      rcases asks_request_bind.mp hpublished with ⟨-, heq⟩ | ⟨time, _, hwait, rfl⟩
      · cases heq
      -- From here on it only waits.
      have hquiet : CallsOnly (· ≠ WorldCall.publish link' topic payload)
          (iterate () fun _ => replyTurn .awaitingReply link (time + config.replyTimeout)) := by
        refine callsOnly_iterate (fun _ => ?_) ()
        exact replyTurn_callsOnly (P := (· ≠ .publish link' topic payload)) nofun (fun _ => nofun)
          nofun _
      exact absurd rfl (hquiet _ _ hwait)

theorem attempt_publish {trace : List (Exchange World)} {topic : String} {payload : Bytes}
    (h : Asks (attempt identity config .awaitingReply) trace (.publish link topic payload)) :
    trace = [⟨.connect config.bootstrap, .ok link⟩, ⟨.subscribe link Topic.register, .ok ()⟩] := by
  rcases asks_request_bind.mp h with ⟨-, heq⟩ | ⟨connected, _, hconnected, rfl⟩
  · cases heq
  cases connected with
  | error error => exact (asks_pure.mp hconnected).elim
  | ok link' =>
    rcases asks_bind.mp hconnected with hexchange | ⟨_, _, _, _, hclose, rfl⟩
    · obtain ⟨rfl, rfl⟩ := exchange_publish hexchange
      rfl
    · rcases asks_request_bind.mp hclose with ⟨-, heq⟩ | ⟨_, _, hpure, rfl⟩
      · cases heq
      · exact (asks_pure.mp hpure).elim

/-- The calls up to the request, each of them granted. -/
theorem published_iff : Published identity config b link b₁ ↔
    Answered Bench.answer b [⟨.connect config.bootstrap, .ok link⟩,
      ⟨.subscribe link Topic.register, .ok ()⟩,
      ⟨.publish link Topic.register identity.request.bytes, .ok ()⟩] b₁ := by
  constructor
  · rintro ⟨before, b₀, hasks, hanswered, hpublish⟩
    obtain rfl := attempt_publish hasks
    exact hanswered.append (.cons hpublish (.nil b₁))
  · rintro (_ | ⟨hconnect, _ | ⟨hsubscribe, _ | ⟨hpublish, ⟨⟩⟩⟩⟩)
    refine ⟨_, _, ?_, .cons hconnect (.cons hsubscribe (.nil _)), hpublish⟩
    have hexchange : Asks (exchange identity config .awaitingReply link)
        [⟨.subscribe link Topic.register, .ok ()⟩]
        (.publish link Topic.register identity.request.bytes) := by
      refine asks_request_bind.mpr (.inr ⟨.ok (), [], ?_, rfl⟩)
      exact asks_request_bind.mpr (.inl ⟨rfl, rfl⟩)
    refine asks_request_bind.mpr (.inr ⟨.ok link, _, ?_, rfl⟩)
    exact asks_bind.mpr (.inl hexchange)

/-- Whatever was delivered until the request was published waits in order. -/
theorem Published.sound (h : Published identity config b link b₁) :
    ∃ c, b₁.connections[link]? = some c ∧ c.Sound := by
  obtain _ | ⟨hconnect, _ | ⟨hsubscribe, _ | ⟨hpublish, ⟨⟩⟩⟩⟩ := published_iff.mp h
  obtain ⟨c, hc, hsound⟩ := sound_of_connect hconnect
  obtain ⟨c', hc', hsound'⟩ := sound_of_onConnection hc (hsound.subscribe _ _) hsubscribe
  exact sound_of_onConnection hc' (hsound'.publish _ _) hpublish

/-- An attempt that has published its request, the bench being `b₁` then, and whose connection is
not lost before it ends, takes the first message in the order of the queue that is a successful
reply on the registration topic and is due no later than the deadline. If there is none it fails,
exactly at the deadline. The bench has to run until then. -/
theorem attempt_deadline (hpublished : Published identity config b link b₁)
    (hc : b₁.connections[link]? = some c) (hdeadline : deadline = b₁.clock + config.replyTimeout)
    (htime : time = ending deadline b₁.clock c.queue) (hlost : c.isLost time = false)
    (hlimit : time ≤ b₁.limit) :
    Returns Bench.answer b (attempt identity config .awaitingReply)
      (Concluded b₁ link time ((taken? deadline c.queue).map Prod.snd)) := by
  have hsound : c.Sound := by
    obtain ⟨c', hc', hsound⟩ := hpublished.sound
    obtain rfl := Option.some.inj (hc'.symm.trans hc)
    exact hsound
  obtain ⟨hlt, -⟩ := List.getElem?_eq_some_iff.mp hc
  have hdead : c.isDead time = false := Bool.or_eq_false_iff.mpr ⟨hsound.isOpen, hlost⟩
  have hnow : b₁.clock ≤ deadline := by omega
  rw [htime] at hdead hlimit
  have hwait := wait_returns hlt hsound hnow hdead hlimit
  rw [after_self hc, ← htime, hdeadline] at hwait
  -- The calls up to the request are answered as they were, and the wait comes after them.
  obtain _ | ⟨hconnect, _ | ⟨hsubscribe, _ | ⟨hpublish, ⟨⟩⟩⟩⟩ := published_iff.mp hpublished
  have hexchange : Returns Bench.answer _ (exchange identity config .awaitingReply link) _ :=
    returns_request_bind hsubscribe (returns_request_bind hpublish
      (returns_request_bind rfl hwait))
  rw [hdeadline]
  refine returns_request_bind hconnect (returns_bind hexchange fun result b' h => ?_)
  exact returns_request_bind rfl (returns_pure h)

/-- A bench on which there is much to hear besides the reply: credentials on another topic, what is
no document, a rejection, and the request itself. The reply is due ten milliseconds after it. -/
def crowded : Bench where
  limit := 100
  connects := [{
    delay := 5
    inbound := [
      { message := ⟨"others", (RegistrationReply.document issued).bytes⟩, after := 3 },
      { message := ⟨Topic.register, []⟩, after := 4 },
      { message := ⟨Topic.register, (Json.Value.object [("success", .bool false)]).bytes⟩
        after := 9 }]
    onPublish := [
      (0, { message := ⟨Topic.register, (RegistrationReply.document issued).bytes⟩
            after := 10 })]
    echo := true }]

/-- The bench when the request has been published on it. -/
def crowdedAfter : Bench :=
  let b := (Bench.answer (.connect rehearsalConfig.bootstrap) crowded).2
  let b := (Bench.answer (.subscribe 0 Topic.register) b).2
  (Bench.answer (.publish 0 Topic.register rehearsalIdentity.request.bytes) b).2

/-- Its connection then. -/
def crowdedConnection : Connection :=
  crowdedAfter.connections.headD (.opened unreachable 0)

theorem crowded_published (timeout : Nat) :
    Published rehearsalIdentity { rehearsalConfig with replyTimeout := timeout } crowded 0
      crowdedAfter := by
  have granted {w : WorldCall} {b : Bench} {r : WorldReply w} (h : (Bench.answer w b).1 = some r) :
      Bench.answer w b = (some r, (Bench.answer w b).2) :=
    Prod.ext h rfl
  refine published_iff.mpr (.cons (granted ?_) (.cons (granted ?_) (.cons (granted ?_) (.nil _))))
  all_goals rfl

/-- With a timeout of ten milliseconds the reply is taken, though it is due at the deadline itself;
with one of nine it comes too late. -/
theorem attempt_deadline_crowded :
    Returns Bench.answer crowded
      (attempt rehearsalIdentity { rehearsalConfig with replyTimeout := 10 } .awaitingReply)
      (fun result b' => result = .ok issued ∧ b'.clock = 15 ∧ b'.stored = some issued) ∧
    Returns Bench.answer crowded
      (attempt rehearsalIdentity { rehearsalConfig with replyTimeout := 9 } .awaitingReply)
      fun result b' => result = .error .timeout ∧ b'.clock = 14 ∧ b'.stored = none := by
  have hc : crowdedAfter.connections[0]? = some crowdedConnection := rfl
  have hclock : crowdedAfter.clock = 5 := rfl
  have htaken : taken? 15 crowdedConnection.queue = some (15, issued) := by decide +kernel
  have hmissed : taken? 14 crowdedConnection.queue = none := by decide +kernel
  constructor
  · have hending : 15 = ending 15 crowdedAfter.clock crowdedConnection.queue := by
      rw [ending, htaken, hclock]
      rfl
    have hdeadline : 15 = crowdedAfter.clock + 10 := congrArg (· + 10) hclock.symm
    have h := attempt_deadline (crowded_published 10) hc hdeadline hending rfl (by decide)
    rw [htaken] at h
    obtain ⟨trace, result, b', hruns, hanswered, hend⟩ := h
    exact ⟨trace, result, b', hruns, hanswered, hend.of_some (by decide)⟩
  · have hending : 14 = ending 14 crowdedAfter.clock crowdedConnection.queue := by
      rw [ending, hmissed]
    have hdeadline : 14 = crowdedAfter.clock + 9 := congrArg (· + 9) hclock.symm
    have h := attempt_deadline (crowded_published 9) hc hdeadline hending rfl (by decide)
    rw [hmissed] at h
    obtain ⟨trace, result, b', hruns, hanswered, hend⟩ := h
    exact ⟨trace, result, b', hruns, hanswered, hend.of_none⟩

end UpdateAgent.Registration
