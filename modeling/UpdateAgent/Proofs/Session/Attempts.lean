import UpdateAgent.Proofs.Session.Registration
import UpdateAgent.Proofs.Returns

/-!
# The attempts of a registration

What a registration calls splits into attempts with one wait between two of them
(`run_attempts`). Each attempt has a connection of its own, on which it subscribes first; the
request goes out if and only if the subscription was accepted, and the connection is closed at the
end, however the attempt went (`Tried`).
-/

namespace UpdateAgent.Registration

open Program Trace

variable {identity : DeviceIdentity} {config : Config} {state : Machine.State} {link : Link}
  {deadline : Nat} {m m' : Machine} {trace : List (Exchange World)}

/-! ## On a connection -/

/-- The calls that an attempt makes between the subscription and the end of its connection. -/
def WhileOpen (link : Link) : WorldCall → Prop
  | .publish link' .. | .unsubscribe link' _ | .receiveBy link' _ => link' = link
  | .now | .store _ => True
  | _ => False

/-- What an attempt does on its connection once it has asked for the subscription. -/
structure Conducted (identity : DeviceIdentity) (link : Link) (subscribed : Except BusError Unit)
    (body : List (Exchange World)) : Prop where
  /-- No connection is opened or closed, nothing is subscribed to, and there is no wait. -/
  calls : ∀ e ∈ body, WhileOpen link e.call
  /-- The request is published if the subscription was accepted, and nothing else ever is. -/
  published : deeds body = match subscribed with
    | .ok () => [.published Topic.register identity.request.bytes]
    | .error _ => []
  /-- There is at most one put. -/
  put : (puts body).length ≤ 1
  /-- The subscription is given up only once a put has come off. -/
  unsubscribed : ∀ before link' topic r after,
    body = before ++ ⟨.unsubscribe link' topic, r⟩ :: after →
      topic = Topic.register ∧ ∃ c, ⟨.store c, .ok ()⟩ ∈ before

/-- The calls of one attempt. -/
inductive Tried (identity : DeviceIdentity) (config : Config) : List (Exchange World) → Prop
  /-- The connection could not be opened, and that was all. -/
  | unopened (error : BusError) : Tried identity config [⟨.connect config.bootstrap, .error error⟩]
  /-- The connection was opened, and was closed at the end. -/
  | opened {link : Link} {subscribed : Except BusError Unit} {body : List (Exchange World)}
    (h : Conducted identity link subscribed body) :
    Tried identity config (⟨.connect config.bootstrap, .ok link⟩ ::
      ⟨.subscribe link Topic.register, subscribed⟩ :: (body ++ [⟨.close link, ()⟩]))

/-- The calls of a wait for a reply. -/
def Awaits (link : Link) : WorldCall → Prop
  | .receiveBy link' _ => link' = link
  | .now => True
  | _ => False

theorem Awaits.whileOpen {wanted : WorldCall} (h : Awaits link wanted) : WhileOpen link wanted := by
  cases wanted with
  | receiveBy => exact h
  | now => exact trivial
  | _ => exact h.elim

theorem deeds_of_awaits (h : ∀ e ∈ trace, Awaits link e.call) : deeds trace = [] := by
  rw [deeds, List.filterMap_eq_nil_iff]
  rintro ⟨call, r⟩ he
  have hcall : Awaits link call := h _ he
  cases call with
  | receiveBy => rfl
  | now => rfl
  | _ => exact hcall.elim

theorem puts_of_awaits (h : ∀ e ∈ trace, Awaits link e.call) : puts trace = [] :=
  puts_of_no_store fun _ _ he => h _ he

/-- What is done about the last message that is heard: nothing, or its credentials are put, and if
that comes off the subscription is given up. -/
inductive Settled (link : Link) : List (Exchange World) → Prop
  | nothing : Settled link []
  | refused (c : Credentials) (error : StoreError) : Settled link [⟨.store c, .error error⟩]
  | stored (c : Credentials) (r : Except BusError Unit) :
    Settled link [⟨.store c, .ok ()⟩, ⟨.unsubscribe link Topic.register, r⟩]

theorem Settled.whileOpen (h : Settled link trace) : ∀ e ∈ trace, WhileOpen link e.call := by
  cases h <;> simp [WhileOpen]

theorem Settled.deeds_eq (h : Settled link trace) : deeds trace = [] := by
  cases h <;> rfl

theorem Settled.length_puts (h : Settled link trace) : (puts trace).length ≤ 1 := by
  cases h with
  | nothing => exact Nat.zero_le 1
  | refused => exact Nat.le_refl 1
  | stored => exact Nat.le_refl 1

/-- The subscription is given up after the put. -/
theorem Settled.unsubscribed (h : Settled link trace) {before after : List (Exchange World)}
    {link' : Link} {topic : String} {r : Except BusError Unit}
    (htrace : trace = before ++ ⟨.unsubscribe link' topic, r⟩ :: after) :
    topic = Topic.register ∧ ∃ c, ⟨.store c, .ok ()⟩ ∈ before := by
  cases h with
  | nothing => simp at htrace
  | refused =>
    cases before with
    | nil => cases htrace
    | cons => simp at htrace
  | stored c =>
    match before, htrace with
    | [], htrace => cases htrace
    | [_], htrace =>
      cases htrace
      exact ⟨rfl, c, List.mem_singleton.mpr rfl⟩
    | _ :: _ :: _, htrace => simp at htrace

/-- A turn waits for one message; if it goes again, that was all. -/
theorem replyTurn_calls {n : Next Unit (Except Setback Credentials)}
    (h : Runs (replyTurn state link deadline) trace n) :
    ∃ r last, trace = ⟨.receiveBy link deadline, r⟩ :: last ∧ Settled link last ∧
      (n = .again () → last = []) := by
  obtain ⟨r, last, hlast, rfl⟩ := runs_request_bind.mp h
  refine ⟨r, last, rfl, ?_⟩
  match r, hlast with
  | .error _, hlast | .ok none, hlast =>
    obtain ⟨rfl, rfl⟩ := runs_pure.mp hlast
    exact ⟨.nothing, fun _ => rfl⟩
  | .ok (some message), hlast =>
    dsimp only at hlast
    split at hlast
    · obtain ⟨rfl, rfl⟩ := runs_pure.mp hlast
      exact ⟨.nothing, fun _ => rfl⟩
    · obtain ⟨_, _, _, haccept, hnext, rfl⟩ := runs_bind.mp hlast
      rcases acceptReply_spec haccept with ⟨rfl, rfl⟩ | ⟨c, stored, -, rfl, rfl⟩
      · obtain ⟨rfl, rfl⟩ := runs_pure.mp hnext
        exact ⟨.nothing, fun _ => rfl⟩
      · cases stored with
        | error error =>
          obtain ⟨rfl, rfl⟩ := runs_pure.mp hnext
          exact ⟨.refused c error, nofun⟩
        | ok =>
          obtain ⟨r, _, hpure, rfl⟩ := runs_request_discard_bind.mp hnext
          obtain ⟨rfl, rfl⟩ := runs_pure.mp hpure
          exact ⟨.stored c r, nofun⟩

theorem replyTurns_await {u v : Unit}
    (h : Turns (fun _ => replyTurn state link deadline) u trace v) :
    ∀ e ∈ trace, Awaits link e.call := by
  induction h with
  | stay => exact fun _ he => absurd he List.not_mem_nil
  | again this _ ih =>
    obtain ⟨r, last, rfl, -, hagain⟩ := replyTurn_calls this
    obtain rfl := hagain rfl
    exact List.forall_mem_cons.mpr ⟨rfl, ih⟩

/-- The request was published, and whatever was heard then, the wait came to an end. -/
theorem conducted_published {heard last : List (Exchange World)} {r : Except BusError Unit}
    (hheard : ∀ e ∈ heard, Awaits link e.call) (hlast : Settled link last) :
    Conducted identity link (.ok ())
      (⟨.publish link Topic.register identity.request.bytes, r⟩ :: (heard ++ last)) where
  calls := by
    refine List.forall_mem_cons.mpr ⟨rfl, List.forall_mem_append.mpr ⟨?_, hlast.whileOpen⟩⟩
    exact fun e he => (hheard e he).whileOpen
  published := by
    have hrest : deeds (heard ++ last) = [] := by
      rw [deeds_append, deeds_of_awaits hheard, hlast.deeds_eq, List.append_nil]
    show _ :: deeds (heard ++ last) = _
    rw [hrest]
  put := by
    show (puts (heard ++ last)).length ≤ 1
    rw [puts_append_of_quiet (puts_of_awaits hheard)]
    exact hlast.length_puts
  unsubscribed := by
    intro before link' topic r' after hbody
    -- The call is none of those that wait, so it is one of the last.
    rw [← List.cons_append] at hbody
    rcases append_eq_append_cons hbody with ⟨l, rfl, hl⟩ | ⟨l, hl, -⟩
    · obtain ⟨htopic, c, hc⟩ := hlast.unsubscribed hl
      exact ⟨htopic, c, List.mem_append_right _ hc⟩
    · have hmem : ⟨.unsubscribe link' topic, r'⟩ ∈ before ++ ⟨.unsubscribe link' topic, r'⟩ :: l :=
        List.mem_append_right _ List.mem_cons_self
      rw [← hl] at hmem
      rcases List.mem_cons.mp hmem with heq | hmem
      · cases heq
      · exact (hheard _ hmem).elim

theorem exchange_conducted {result : Except Setback Credentials}
    (h : Runs (exchange identity config state link) trace result) :
    ∃ subscribed body, trace = ⟨.subscribe link Topic.register, subscribed⟩ :: body ∧
      Conducted identity link subscribed body := by
  obtain ⟨subscribed, body, hbody, rfl⟩ := runs_request_bind.mp h
  refine ⟨subscribed, body, rfl, ?_⟩
  cases subscribed with
  | error error =>
    obtain ⟨rfl, rfl⟩ := runs_pure.mp hbody
    exact ⟨nofun, rfl, Nat.zero_le 1, fun _ _ _ _ _ hbody => by simp at hbody⟩
  | ok =>
    obtain ⟨published, _, hpublished, rfl⟩ := runs_request_bind.mp hbody
    cases published with
    | error error =>
      obtain ⟨rfl, rfl⟩ := runs_pure.mp hpublished
      exact conducted_published (List.forall_mem_nil _) .nothing
    | ok =>
      obtain ⟨time, _, hloop, rfl⟩ := runs_request_bind.mp hpublished
      obtain ⟨before, _, turn, hbefore, hturn, rfl⟩ := runs_iterate.mp hloop
      obtain ⟨r, last, rfl, hlast, -⟩ := replyTurn_calls hturn
      have hheard : ∀ e ∈ (⟨.now, time⟩ : Exchange World) :: (before ++ [⟨.receiveBy link _, r⟩]),
          Awaits link e.call := by
        refine List.forall_mem_cons.mpr ⟨trivial, List.forall_mem_append.mpr ⟨?_, ?_⟩⟩
        · exact replyTurns_await hbefore
        · exact List.forall_mem_singleton.mpr rfl
      simpa using conducted_published (r := .ok ()) hheard hlast

theorem attempt_tried {result : Except Setback Credentials}
    (h : Runs (attempt identity config state) trace result) : Tried identity config trace := by
  obtain ⟨connected, _, hconnected, rfl⟩ := runs_request_bind.mp h
  cases connected with
  | error error =>
    obtain ⟨rfl, rfl⟩ := runs_pure.mp hconnected
    exact .unopened error
  | ok link =>
    obtain ⟨_, _, _, hexchange, hclose, rfl⟩ := runs_bind.mp hconnected
    obtain ⟨_, _, hpure, rfl⟩ := runs_request_bind.mp hclose
    obtain ⟨rfl, rfl⟩ := runs_pure.mp hpure
    obtain ⟨subscribed, body, rfl, hbody⟩ := exchange_conducted hexchange
    exact .opened hbody

/-! ## From attempt to attempt -/

/-- Watchers are told something, and that is all. -/
def Telling (trace : List (Exchange World)) : Prop :=
  ∀ e ∈ trace, ∃ state, e = ⟨.announce state, ()⟩

theorem telling_announcement (t : Machine.Transition) : Telling t.announcement := by
  cases t with
  | moved source target => exact fun e he => ⟨target, List.mem_singleton.mp he⟩
  | ignored => exact nofun

/-- Attempts of a session as they follow each other: all but the last make no put. -/
structure Tries (identity : DeviceIdentity) (config : Config)
    (attempts : List (List (Exchange World))) : Prop where
  tried : ∀ attempt ∈ attempts, Tried identity config attempt
  quiet : ∀ attempt ∈ attempts.dropLast, puts attempt = []

theorem Tries.cons {attempt : List (Exchange World)} {attempts : List (List (Exchange World))}
    (h : Tries identity config attempts) (hattempts : attempts ≠ [])
    (htried : Tried identity config attempt) (hquiet : puts attempt = []) :
    Tries identity config (attempt :: attempts) where
  tried := List.forall_mem_cons.mpr ⟨htried, h.tried⟩
  quiet := by
    rw [List.dropLast_cons_of_ne_nil hattempts]
    exact List.forall_mem_cons.mpr ⟨hquiet, h.quiet⟩

theorem tries_singleton {attempt : List (Exchange World)} (h : Tried identity config attempt) :
    Tries identity config [attempt] where
  tried := List.forall_mem_singleton.mpr h
  quiet := nofun

/-- The attempts with a wait between two of them. -/
def joined (config : Config) (attempts : List (List (Exchange World))) : List (Exchange World) :=
  List.intercalate [⟨.pause config.retry.interval, ()⟩] attempts

theorem joined_singleton (attempt : List (Exchange World)) : joined config [attempt] = attempt :=
  List.intercalate_singleton

theorem joined_cons {attempt : List (Exchange World)} {attempts : List (List (Exchange World))}
    (h : attempts ≠ []) :
    joined config (attempt :: attempts) =
      attempt ++ ⟨.pause config.retry.interval, ()⟩ :: joined config attempts := by
  obtain ⟨second, others, rfl⟩ := List.exists_cons_of_ne_nil h
  rw [joined, List.intercalate_cons_cons, List.append_assoc]
  rfl

/-- While a reply is awaited, watchers are told nothing of an attempt. -/
theorem announcement_of_awaiting (h : m.state = .awaitingReply) :
    (m.handle .registrationStarted).1.announcement = [] := by
  rw [Machine.handle_of_none (by rw [h]; rfl)]
  rfl

/-- A session makes an attempt and, when another may follow, no put and nothing else. -/
theorem tryOnce_tried (hstate : m.state = .unregistered ∨ m.state = .awaitingReply)
    {o : Option (Except Error Credentials)}
    (h : Runs ((tryOnce identity config).run m) trace (o, m')) :
    ∃ attempt closing,
      trace = (m.handle .registrationStarted).1.announcement ++ (attempt ++ closing) ∧
      Tried identity config attempt ∧ Telling closing ∧
      (o = none → m'.state = .awaitingReply ∧ puts attempt = [] ∧ closing = []) ∧
      ∀ n, o ≠ some (.error (.retryExhausted n)) := by
  obtain ⟨_, hbody, rfl⟩ := Session.runs_tell_bind.mp h
  have hstarted := Machine.handle_registrationStarted hstate
  rw [Session.runs_get_bind] at hbody
  obtain ⟨_, tried, _, closing, hlift, hresult, rfl⟩ := Session.runs_bind.mp hbody
  obtain ⟨hattempt, rfl⟩ := Session.runs_lift.mp hlift
  refine ⟨_, closing, rfl, attempt_tried hattempt, ?_⟩
  match tried, hresult with
  | .ok c, hresult =>
    obtain ⟨_, hpure, rfl⟩ := Session.runs_tell_bind.mp hresult
    obtain ⟨rfl, rfl, rfl⟩ := Session.runs_pure.mp hpure
    rw [List.append_nil]
    exact ⟨telling_announcement _, nofun, nofun⟩
  | .error (.storage error), hresult =>
    obtain ⟨rfl, rfl, rfl⟩ := Session.runs_pure.mp hresult
    exact ⟨nofun, nofun, nofun⟩
  | .error (.bus error), hresult | .error .timeout, hresult =>
    obtain ⟨rfl, rfl, rfl⟩ := Session.runs_pure.mp hresult
    refine ⟨nofun, fun _ => ⟨hstarted, ?_, rfl⟩, nofun⟩
    rcases attempt_spec hattempt with ⟨_, heq, _⟩ | ⟨_, _, heq, _⟩ | ⟨_, _, _, hquiet⟩
    · cases heq
    · cases heq
    · exact hquiet

theorem attempts_tries {more : Nat}
    (hstate : m.state = .unregistered ∨ m.state = .awaitingReply)
    {result : Except Error Credentials}
    (h : Runs ((attempts identity config more).run m) trace (result, m')) :
    ∃ tries closing,
      trace = (m.handle .registrationStarted).1.announcement ++ (joined config tries ++ closing) ∧
      Tries identity config tries ∧ Telling closing ∧ tries ≠ [] ∧ tries.length ≤ more + 1 ∧
      ∀ n, result = .error (.retryExhausted n) →
        n = config.retry.attempts ∧ tries.length = more + 1 := by
  induction more generalizing m trace with
  | zero =>
    obtain ⟨_, o, _, rest, htry, hrest, rfl⟩ := Session.runs_bind.mp h
    obtain ⟨attempt, closing, rfl, htried, htelling, -, hover⟩ := tryOnce_tried hstate htry
    have hrest :
        rest = [] ∧ ∀ n, result = .error (.retryExhausted n) → n = config.retry.attempts := by
      cases o with
      | some r =>
        obtain ⟨rfl, rfl, -⟩ := Session.runs_pure.mp hrest
        exact ⟨rfl, fun n heq => absurd (congrArg some heq) (hover n)⟩
      | none =>
        obtain ⟨rfl, rfl, -⟩ := Session.runs_pure.mp hrest
        exact ⟨rfl, fun n heq => by cases heq; rfl⟩
    obtain ⟨rfl, hexhausted⟩ := hrest
    refine ⟨[attempt], closing, ?_, tries_singleton htried, htelling, nofun, Nat.le_refl 1, ?_⟩
    · simp [joined_singleton]
    · exact fun n heq => ⟨hexhausted n heq, rfl⟩
  | succ more ih =>
    obtain ⟨_, o, _, _, htry, hrest, rfl⟩ := Session.runs_bind.mp h
    obtain ⟨attempt, closing, rfl, htried, htelling, hagain, hover⟩ := tryOnce_tried hstate htry
    cases o with
    | some r =>
      obtain ⟨rfl, rfl, -⟩ := Session.runs_pure.mp hrest
      refine ⟨[attempt], closing, ?_, tries_singleton htried, htelling, nofun, ?_, ?_⟩
      · simp [joined_singleton]
      · exact Nat.le_add_left 1 _
      · exact fun n heq => absurd (congrArg some heq) (hover n)
    | none =>
      obtain ⟨hawaiting, hquiet, rfl⟩ := hagain rfl
      obtain ⟨⟨⟩, _, hnext, rfl⟩ := Session.runs_request_bind.mp hrest
      obtain ⟨tries, closing, rfl, htries, htelling, hne, hlength, hexhausted⟩ :=
        ih (.inr hawaiting) hnext
      refine ⟨attempt :: tries, closing, ?_, htries.cons hne htried hquiet, htelling, nofun, ?_, ?_⟩
      · rw [announcement_of_awaiting hawaiting, joined_cons hne]
        simp
      · exact Nat.succ_le_succ hlength
      · intro n heq
        obtain ⟨hn, hlength⟩ := hexhausted n heq
        exact ⟨hn, congrArg (· + 1) hlength⟩

/-! ## Sessions that have not returned -/

theorem acceptReply_canReturn (state : Machine.State) (payload : Bytes) :
    CanReturn (acceptReply state payload) := by
  rw [acceptReply]
  split
  · exact canReturn_pure _
  · split
    · exact canReturn_pure _
    · refine canReturn_bind (canReturn_request (.ok ())) fun stored => ?_
      cases stored <;> exact canReturn_pure _

theorem replyTurn_canReturn (state : Machine.State) (link : Link) (deadline : Nat) :
    CanReturn (replyTurn state link deadline) := by
  refine canReturn_bind (canReturn_request (.ok none)) fun received => ?_
  match received with
  | .error _ => exact canReturn_pure _
  | .ok none => exact canReturn_pure _
  | .ok (some message) =>
    dsimp only
    split
    · exact canReturn_pure _
    · refine canReturn_bind (acceptReply_canReturn _ _) fun accepted => ?_
      match accepted with
      | .error _ => exact canReturn_pure _
      | .ok none => exact canReturn_pure _
      | .ok (some _) =>
        refine canReturn_bind (canReturn_discard (canReturn_request (.ok ()))) fun _ => ?_
        exact canReturn_pure _

theorem exchange_canReturn (state : Machine.State) (link : Link) :
    CanReturn (exchange identity config state link) := by
  refine canReturn_bind (canReturn_request (.ok ())) fun subscribed => ?_
  cases subscribed with
  | error error => exact canReturn_pure _
  | ok =>
    refine canReturn_bind (canReturn_request (.ok ())) fun published => ?_
    cases published with
    | error error => exact canReturn_pure _
    | ok =>
      refine canReturn_bind (canReturn_request (0 : Nat)) fun now => ?_
      refine canReturn_iterate (fun _ => replyTurn_canReturn _ _ _) (fun _ => ?_) ()
      -- The deadline may pass at any turn.
      exact ⟨_, _, runs_request_bind.mpr ⟨.ok none, [], runs_pure.mpr ⟨rfl, rfl⟩, rfl⟩⟩

theorem attempt_canReturn (state : Machine.State) :
    CanReturn (attempt identity config state) := by
  refine canReturn_bind (canReturn_request (.ok 0)) fun connected => ?_
  cases connected with
  | error error => exact canReturn_pure _
  | ok link =>
    refine canReturn_bind (exchange_canReturn _ _) fun _ => ?_
    exact canReturn_bind (canReturn_request ()) fun _ => canReturn_pure _

theorem tryOnce_canReturn (m : Machine) : CanReturn ((tryOnce identity config).run m) := by
  refine Session.canReturn_bind (Session.canReturn_tell _) fun _ m₁ => ?_
  refine Session.canReturn_bind (canReturn_pure _) fun m₂ m₃ => ?_
  refine Session.canReturn_bind (Session.canReturn_lift (attempt_canReturn _)) fun tried m₄ => ?_
  match tried with
  | .ok c => exact Session.canReturn_bind (Session.canReturn_tell _) fun _ _ => canReturn_pure _
  | .error (.storage _) => exact canReturn_pure _
  | .error (.bus _) => exact canReturn_pure _
  | .error .timeout => exact canReturn_pure _

theorem attempts_canReturn (more : Nat) (m : Machine) :
    CanReturn ((attempts identity config more).run m) := by
  induction more generalizing m with
  | zero =>
    refine Session.canReturn_bind (tryOnce_canReturn m) fun o _ => ?_
    cases o <;> exact canReturn_pure _
  | succ more ih =>
    refine Session.canReturn_bind (tryOnce_canReturn m) fun o _ => ?_
    cases o with
    | some result => exact canReturn_pure _
    | none =>
      refine Session.canReturn_bind (Session.canReturn_lift (canReturn_request ())) fun _ m' => ?_
      exact ih m'

/-! ## The whole session -/

/-- A policy of none counts as one. -/
theorem toNat_attempts (policy : RetryPolicy) :
    policy.attempts.toNat = max 1 policy.maxAttempts.toNat := by
  rw [RetryPolicy.attempts]
  show (if policy.maxAttempts ≤ 1 then 1 else policy.maxAttempts).toNat = _
  split
  · rename_i h
    exact (Nat.max_eq_left (UInt32.le_iff_toNat_le.mp h)).symm
  · rename_i h
    rw [UInt32.le_iff_toNat_le] at h
    exact (Nat.max_eq_right (Nat.le_of_not_le h)).symm

/-- What a registration calls, apart from telling of its moves before and after, is at least one
attempt and at most as many as its policy allows, with one wait between two of them; it is all that
are allowed if the session gave up. A session that has not returned has done the beginning of what
one that returns does. -/
theorem run_attempts (hstate : m.state = .unregistered ∨ m.state = .awaitingReply) :
    (∀ trace result m', Runs ((run identity config).run m) trace (result, m') →
      ∃ opening attempts closing,
        trace = opening ++ (joined config attempts ++ closing) ∧
        Telling opening ∧ Tries identity config attempts ∧ Telling closing ∧
        1 ≤ attempts.length ∧ attempts.length ≤ max 1 config.retry.maxAttempts.toNat ∧
        ∀ n, result = .error (.retryExhausted n) →
          attempts.length = max 1 config.retry.maxAttempts.toNat ∧ n.toNat = attempts.length) ∧
    ∀ trace, Began ((run identity config).run m) trace →
      ∃ rest result m', Runs ((run identity config).run m) (trace ++ rest) (result, m') := by
  rw [run_of_state hstate]
  have hallowed : config.retry.attempts.toNat - 1 + 1 = max 1 config.retry.maxAttempts.toNat := by
    rw [toNat_attempts]
    omega
  constructor
  · intro trace result m' h
    obtain ⟨tries, closing, rfl, htries, htelling, hne, hlength, hexhausted⟩ :=
      attempts_tries hstate h
    refine ⟨_, tries, closing, rfl, telling_announcement _, htries, htelling, ?_, ?_, ?_⟩
    · exact List.length_pos_iff.mpr hne
    · exact hallowed ▸ hlength
    · intro n heq
      obtain ⟨rfl, hlength⟩ := hexhausted n heq
      rw [toNat_attempts, hlength, hallowed]
      exact ⟨rfl, rfl⟩
  · intro trace h
    obtain ⟨rest, ⟨result, m'⟩, hruns⟩ := attempts_canReturn _ m trace h
    exact ⟨rest, result, m', hruns⟩

/-- On this bench the first connection of a device is refused and the second brings no reply. -/
def unanswered : Bench where
  limit := 100
  connects := [{ refusal := some "unreachable" }, {}]

theorem run_attempts_rehearsed :
    ∃ trace m' opening attempts closing, Runs rehearsed trace (.error (.retryExhausted 2), m') ∧
      trace = opening ++ (joined rehearsalConfig attempts ++ closing) ∧
      Tries rehearsalIdentity rehearsalConfig attempts ∧ attempts.length = 2 := by
  have hend : ((rehearsed.run Bench.answer.recorded 4 (unanswered, [])).1.map Prod.fst) =
      some (.error (.retryExhausted 2)) := by
    decide +kernel
  obtain ⟨⟨result, m'⟩, hrun, rfl⟩ := Option.map_eq_some_iff.mp hend
  obtain ⟨hruns, -⟩ := runs_of_run hrun
  have hunregistered : (Machine.new 1).state = .unregistered := rfl
  obtain ⟨opening, attempts, closing, htrace, -, htries, -, -, -, hexhausted⟩ :=
    (run_attempts (.inl hunregistered)).1 _ _ _ hruns
  obtain ⟨hlength, -⟩ := hexhausted 2 rfl
  exact ⟨_, m', opening, attempts, closing, hruns, htrace, htries, hlength⟩

end UpdateAgent.Registration
