import UpdateAgent.Proofs.Machine
import UpdateAgent.Proofs.Session.Trace
import UpdateAgent.Session.Registration
import UpdateAgent.Bench.Basic

/-!
# The course of a registration
-/

namespace UpdateAgent.Registration

open Program Trace

variable {identity : DeviceIdentity} {config : Config} {state : Machine.State} {link : Link}
  {deadline : Nat} {m m' : Machine} {c : Credentials} {trace : List (Exchange World)}

/-! ## Taking a reply -/

/-- A payload that is no successful reply is passed over; one that is makes the only put. -/
theorem acceptReply_spec {payload : Bytes} {r : Except StoreError (Option Credentials)}
    (h : Runs (acceptReply state payload) trace r) :
    (r = .ok none ∧ trace = []) ∨
      ∃ c stored, RegistrationReply.decode payload = .ok c ∧ trace = [⟨.store c, stored⟩] ∧
        r = stored.map fun _ => some c := by
  rw [acceptReply] at h
  split at h
  · obtain ⟨rfl, rfl⟩ := runs_pure.mp h
    exact .inl ⟨rfl, rfl⟩
  · split at h
    · obtain ⟨rfl, rfl⟩ := runs_pure.mp h
      exact .inl ⟨rfl, rfl⟩
    · rename_i c hdecode
      obtain ⟨stored, _, hrest, rfl⟩ := runs_request_bind.mp h
      refine .inr ⟨c, stored, hdecode, ?_⟩
      cases stored with
      | error error =>
        obtain ⟨rfl, rfl⟩ := runs_pure.mp hrest
        exact ⟨rfl, rfl⟩
      | ok =>
        obtain ⟨rfl, rfl⟩ := runs_pure.mp hrest
        exact ⟨rfl, rfl⟩

/-- While no reply is awaited, a payload makes no put. -/
theorem acceptReply_of_ne (hstate : state ≠ .awaitingReply) (payload : Bytes) :
    acceptReply state payload = pure (.ok none) :=
  if_pos hstate

/-- How the wait for a reply ends. -/
inductive Ending (link : Link) : Except Setback Credentials → List (Exchange World) → Prop
  /-- The reply was stored right after it was heard, and the subscription was given up. -/
  | stored {before : List (Exchange World)} {deadline : Nat} {message : Message}
    {c : Credentials} {r : Except BusError Unit} (hquiet : puts before = [])
    (htopic : message.topic = Topic.register)
    (hdecode : RegistrationReply.decode message.payload = .ok c) :
    Ending link (.ok c) (before ++
      [⟨.receiveBy link deadline, .ok (some message)⟩, ⟨.store c, .ok ()⟩,
        ⟨.unsubscribe link Topic.register, r⟩])
  /-- The reply could not be stored. -/
  | refused {trace : List (Exchange World)} {c : Credentials} {error : StoreError}
    (hput : puts trace = [(c, .error error)]) : Ending link (.error (.storage error)) trace
  /-- There was no reply. -/
  | missed {trace : List (Exchange World)} {setback : Setback} (hquiet : puts trace = [])
    (hsetback : ∀ error, setback ≠ .storage error) : Ending link (.error setback) trace

/-- What came before does not count if it made no put. -/
theorem Ending.prepend {result : Except Setback Credentials} {before : List (Exchange World)}
    (h : Ending link result trace) (hbefore : puts before = []) :
    Ending link result (before ++ trace) := by
  cases h with
  | stored hquiet htopic hdecode =>
    rw [← List.append_assoc]
    exact .stored ((puts_append_of_quiet hbefore _).trans hquiet) htopic hdecode
  | refused hput => exact .refused ((puts_append_of_quiet hbefore _).trans hput)
  | missed hquiet hsetback =>
    exact .missed ((puts_append_of_quiet hbefore _).trans hquiet) hsetback

theorem Ending.cons {result : Except Setback Credentials} {e : Exchange World}
    (h : Ending link result trace) (he : put? e = none) : Ending link result (e :: trace) := by
  show Ending link result ([e] ++ trace)
  exact h.prepend (List.filterMap_cons_none he)

/-- A turn goes again without a put, or ends the wait. -/
theorem replyTurn_spec {n : Next Unit (Except Setback Credentials)}
    (h : Runs (replyTurn state link deadline) trace n) :
    (n = .again () ∧ puts trace = []) ∨
      ∃ result, n = .finish result ∧ Ending link result trace := by
  obtain ⟨r, _, hrest, rfl⟩ := runs_request_bind.mp h
  match r, hrest with
  | .error error, hrest =>
    obtain ⟨rfl, rfl⟩ := runs_pure.mp hrest
    exact .inr ⟨_, rfl, .missed rfl fun _ => nofun⟩
  | .ok none, hrest =>
    obtain ⟨rfl, rfl⟩ := runs_pure.mp hrest
    exact .inr ⟨_, rfl, .missed rfl fun _ => nofun⟩
  | .ok (some message), hrest =>
    dsimp only at hrest
    split at hrest
    · obtain ⟨rfl, rfl⟩ := runs_pure.mp hrest
      exact .inl ⟨rfl, rfl⟩
    · rename_i htopic
      obtain ⟨_, _, _, haccept, hnext, rfl⟩ := runs_bind.mp hrest
      rcases acceptReply_spec haccept with ⟨rfl, rfl⟩ | ⟨c, stored, hdecode, rfl, rfl⟩
      · obtain ⟨rfl, rfl⟩ := runs_pure.mp hnext
        exact .inl ⟨rfl, rfl⟩
      · cases stored with
        | error error =>
          obtain ⟨rfl, rfl⟩ := runs_pure.mp hnext
          exact .inr ⟨_, rfl, .refused rfl⟩
        | ok =>
          obtain ⟨_, _, _, hunsubscribe, hpure, rfl⟩ := runs_bind.mp hnext
          obtain ⟨r, hcall⟩ := runs_discard.mp hunsubscribe
          obtain rfl := runs_request.mp hcall
          obtain ⟨rfl, rfl⟩ := runs_pure.mp hpure
          refine .inr ⟨_, rfl, ?_⟩
          show Ending link _ ([] ++ _)
          exact .stored rfl (not_not.mp htopic) hdecode

/-- Turns that go again make no put. -/
theorem replyTurns_spec {u v : Unit}
    (h : Turns (fun _ => replyTurn state link deadline) u trace v) : puts trace = [] := by
  induction h with
  | stay => rfl
  | again this _ ih =>
    rcases replyTurn_spec this with ⟨_, hthis⟩ | ⟨_, heq, _⟩
    · exact (puts_append_of_quiet hthis _).trans ih
    · cases heq

theorem exchange_spec {result : Except Setback Credentials}
    (h : Runs (exchange identity config state link) trace result) :
    Ending link result trace := by
  obtain ⟨subscribed, _, hsubscribed, rfl⟩ := runs_request_bind.mp h
  apply Ending.cons _ rfl
  cases subscribed with
  | error error =>
    obtain ⟨rfl, rfl⟩ := runs_pure.mp hsubscribed
    exact .missed rfl fun _ => nofun
  | ok =>
    obtain ⟨published, _, hpublished, rfl⟩ := runs_request_bind.mp hsubscribed
    apply Ending.cons _ rfl
    cases published with
    | error error =>
      obtain ⟨rfl, rfl⟩ := runs_pure.mp hpublished
      exact .missed rfl fun _ => nofun
    | ok =>
      obtain ⟨_, _, hloop, rfl⟩ := runs_request_bind.mp hpublished
      apply Ending.cons _ rfl
      obtain ⟨before, _, turn, hbefore, hturn, rfl⟩ := runs_iterate.mp hloop
      apply Ending.prepend _ (replyTurns_spec hbefore)
      rcases replyTurn_spec hturn with ⟨heq, _⟩ | ⟨_, heq, hend⟩
      · cases heq
      · cases heq
        exact hend

/-! ## An attempt -/

/-- What an attempt did that brought the credentials `c`: a reply that carries them was heard on the
registration topic, over the connection of the attempt; they were stored, and then the connection
was closed. -/
def Replied (config : Config) (c : Credentials) (trace : List (Exchange World)) : Prop :=
  ∃ link before deadline message r, puts before = [] ∧ message.topic = Topic.register ∧
    RegistrationReply.decode message.payload = .ok c ∧
    trace = ⟨.connect config.bootstrap, .ok link⟩ :: before ++
      [⟨.receiveBy link deadline, .ok (some message)⟩, ⟨.store c, .ok ()⟩,
        ⟨.unsubscribe link Topic.register, r⟩, ⟨.close link, ()⟩]

/-- The only put of such an attempt is that of the credentials. -/
theorem Replied.puts_eq (h : Replied config c trace) : puts trace = [(c, .ok ())] := by
  obtain ⟨link, before, deadline, message, r, hquiet, -, -, rfl⟩ := h
  show puts (before ++ _) = _
  rw [puts_append_of_quiet hquiet]
  rfl

/-- So it is when nothing was put before it, and the device counts as registered after it. -/
theorem Replied.puts_session (h : Replied config c trace) {before : List (Exchange World)}
    (hquiet : puts before = []) :
    puts (before ++ (trace ++ [⟨.announce .registered, ()⟩])) = [(c, .ok ())] := by
  rw [puts_append_of_quiet hquiet, puts_append, h.puts_eq]
  rfl

theorem attempt_spec {result : Except Setback Credentials}
    (h : Runs (attempt identity config state) trace result) :
    (∃ c, result = .ok c ∧ Replied config c trace) ∨
      (∃ c error, result = .error (.storage error) ∧ puts trace = [(c, .error error)]) ∨
      ∃ setback, result = .error setback ∧ (∀ error, setback ≠ .storage error) ∧
        puts trace = [] := by
  obtain ⟨connected, _, hconnected, rfl⟩ := runs_request_bind.mp h
  cases connected with
  | error error =>
    obtain ⟨rfl, rfl⟩ := runs_pure.mp hconnected
    exact .inr (.inr ⟨_, rfl, fun _ => nofun, rfl⟩)
  | ok link =>
    obtain ⟨exchanged, _, _, hexchange, hclose, rfl⟩ := runs_bind.mp hconnected
    obtain ⟨_, _, hpure, rfl⟩ := runs_request_bind.mp hclose
    obtain ⟨rfl, rfl⟩ := runs_pure.mp hpure
    have hputs : puts (⟨.connect config.bootstrap, .ok link⟩ ::
        (exchanged ++ [⟨.close link, ()⟩])) = puts exchanged := by
      show puts (exchanged ++ _) = _
      rw [puts_append]
      exact List.append_nil _
    cases exchange_spec hexchange with
    | @stored before deadline message c r hquiet htopic hdecode =>
      refine .inl ⟨c, rfl, link, before, deadline, message, r, hquiet, htopic, hdecode, ?_⟩
      rw [List.append_assoc]
      rfl
    | refused hput => exact .inr (.inl ⟨_, _, rfl, hputs.trans hput⟩)
    | missed hquiet hsetback => exact .inr (.inr ⟨_, rfl, hsetback, hputs.trans hquiet⟩)

/-! ## The session -/

/-- How a session ends: its result, the state of the machine then, and what it did. -/
inductive Course (config : Config) :
    Except Error Credentials → Machine.State → List (Exchange World) → Prop
  /-- After attempts without a put, one brought the credentials, and the device counts as
  registered. -/
  | registered {before attempt : List (Exchange World)} {c : Credentials}
    (hquiet : puts before = []) (hreplied : Replied config c attempt) :
    Course config (.ok c) .registered (before ++ (attempt ++ [⟨.announce .registered, ()⟩]))
  /-- The credentials could not be stored. -/
  | refused {trace : List (Exchange World)} {c : Credentials} {error : StoreError}
    (hput : puts trace = [(c, .error error)]) :
    Course config (.error (.storage error)) .awaitingReply trace
  /-- No attempt brought credentials. -/
  | exhausted {trace : List (Exchange World)} (hquiet : puts trace = []) :
    Course config (.error (.retryExhausted config.retry.attempts)) .awaitingReply trace

theorem Course.prepend {result : Except Error Credentials} {before : List (Exchange World)}
    (h : Course config result state trace) (hbefore : puts before = []) :
    Course config result state (before ++ trace) := by
  cases h with
  | registered hquiet hreplied =>
    rw [← List.append_assoc]
    exact .registered ((puts_append_of_quiet hbefore _).trans hquiet) hreplied
  | refused hput => exact .refused ((puts_append_of_quiet hbefore _).trans hput)
  | exhausted hquiet => exact .exhausted ((puts_append_of_quiet hbefore _).trans hquiet)

/-- After an attempt the session goes on without a put, or is over. -/
theorem tryOnce_spec (hstate : m.state = .unregistered ∨ m.state = .awaitingReply)
    {o : Option (Except Error Credentials)}
    (h : Runs ((tryOnce identity config).run m) trace (o, m')) :
    m'.budget = m.budget ∧
      ((o = none ∧ m'.state = .awaitingReply ∧ puts trace = []) ∨
        ∃ result, o = some result ∧ Course config result m'.state trace) := by
  obtain ⟨_, hbody, rfl⟩ := Session.runs_tell_bind.mp h
  have hbudget := Machine.handle_budget m .registrationStarted
  have hstarted := Machine.handle_registrationStarted hstate
  -- Whether the machine moved or was awaiting a reply before does not matter from here on.
  generalize (m.handle .registrationStarted).2 = m₁ at hbody hbudget hstarted
  obtain ⟨_, _, _, _, hget, hrest, rfl⟩ := Session.runs_bind.mp hbody
  obtain ⟨rfl, rfl, rfl⟩ := Session.runs_get.mp hget
  obtain ⟨tried, _, _, last, hlift, hresult, rfl⟩ := Session.runs_bind.mp hrest
  obtain ⟨hattempt, rfl⟩ := Session.runs_lift.mp hlift
  rcases attempt_spec hattempt with
    ⟨c, rfl, hreplied⟩ | ⟨c, error, rfl, hput⟩ | ⟨setback, rfl, hsetback, hquiet⟩
  · -- Only here, after the connection was closed, is the machine told.
    obtain ⟨_, hpure, rfl⟩ := Session.runs_tell_bind.mp hresult
    rw [Machine.handle_registrationAccepted hstarted] at hpure ⊢
    obtain ⟨rfl, rfl, rfl⟩ := Session.runs_pure.mp hpure
    refine ⟨hbudget, .inr ⟨_, rfl, ?_⟩⟩
    exact .registered (puts_announcement _) hreplied
  · obtain ⟨rfl, rfl, rfl⟩ := Session.runs_pure.mp hresult
    refine ⟨hbudget, .inr ⟨_, rfl, ?_⟩⟩
    rw [hstarted]
    apply Course.prepend _ (puts_announcement _)
    exact .refused (by simpa using hput)
  · have hnone : o = none ∧ m₁ = m' ∧ last = [] := by
      cases setback with
      | storage error => exact absurd rfl (hsetback error)
      | bus error =>
        obtain ⟨rfl, rfl, rfl⟩ := Session.runs_pure.mp hresult
        exact ⟨rfl, rfl, rfl⟩
      | timeout =>
        obtain ⟨rfl, rfl, rfl⟩ := Session.runs_pure.mp hresult
        exact ⟨rfl, rfl, rfl⟩
    obtain ⟨rfl, rfl, rfl⟩ := hnone
    refine ⟨hbudget, .inl ⟨rfl, hstarted, ?_⟩⟩
    rw [puts_append, puts_announcement]
    simpa using hquiet

/-- However many attempts are left, the session comes to one of its ends. -/
theorem attempts_spec {more : Nat}
    (hstate : m.state = .unregistered ∨ m.state = .awaitingReply)
    {result : Except Error Credentials}
    (h : Runs ((attempts identity config more).run m) trace (result, m')) :
    m'.budget = m.budget ∧ Course config result m'.state trace := by
  induction more generalizing m trace with
  | zero =>
    obtain ⟨_, _, _, _, htry, hrest, rfl⟩ := Session.runs_bind.mp h
    obtain ⟨hbudget, ⟨rfl, hend, hquiet⟩ | ⟨_, rfl, hcourse⟩⟩ := tryOnce_spec hstate htry
    · obtain ⟨rfl, rfl, rfl⟩ := Session.runs_pure.mp hrest
      refine ⟨hbudget, ?_⟩
      rw [hend, List.append_nil]
      exact .exhausted hquiet
    · obtain ⟨rfl, rfl, rfl⟩ := Session.runs_pure.mp hrest
      rw [List.append_nil]
      exact ⟨hbudget, hcourse⟩
  | succ more ih =>
    obtain ⟨_, _, _, _, htry, hrest, rfl⟩ := Session.runs_bind.mp h
    obtain ⟨hbudget, ⟨rfl, hend, hquiet⟩ | ⟨_, rfl, hcourse⟩⟩ := tryOnce_spec hstate htry
    · obtain ⟨_, _, hagain, rfl⟩ := Session.runs_request_bind.mp hrest
      obtain ⟨hbudget', hcourse⟩ := ih (.inr hend) hagain
      refine ⟨hbudget'.trans hbudget, ?_⟩
      rw [← List.singleton_append]
      exact (hcourse.prepend rfl).prepend hquiet
    · obtain ⟨rfl, rfl, rfl⟩ := Session.runs_pure.mp hrest
      rw [List.append_nil]
      exact ⟨hbudget, hcourse⟩

theorem run_of_state (hstate : m.state = .unregistered ∨ m.state = .awaitingReply) :
    (run identity config).run m =
      (attempts identity config (config.retry.attempts.toNat - 1)).run m := by
  have h : (run identity config).run m = _ := StateT.run_bind ..
  rcases hstate with hstate | hstate <;> simp [h, hstate]

/-! ## What the session asks for -/

/-- The calls that an attempt may make: one login, the registration topic and one message on it, and
the store. -/
def Permitted (identity : DeviceIdentity) (config : Config) : WorldCall → Prop
  | .connect login => login = config.bootstrap
  | .subscribe _ topic | .unsubscribe _ topic => topic = Topic.register
  | .publish _ topic payload => topic = Topic.register ∧ payload = identity.request.bytes
  | .now | .receiveBy .. | .close _ | .store _ => True
  | .pause _ | .receive _ | .start _ | .turn .. | .load | .announce _ => False

section

variable {P : WorldCall → Prop}

theorem acceptReply_callsOnly (hstore : ∀ c, P (.store c)) (state : Machine.State)
    (payload : Bytes) : CallsOnly P (acceptReply state payload) := by
  rw [acceptReply]
  split
  · exact callsOnly_pure _
  · split
    · exact callsOnly_pure _
    · refine callsOnly_bind (callsOnly_request (hstore _)) fun stored => ?_
      cases stored <;> exact callsOnly_pure _

/-- A turn receives, and after a reply it stores and gives the subscription up. -/
theorem replyTurn_callsOnly (hreceive : P (.receiveBy link deadline)) (hstore : ∀ c, P (.store c))
    (hunsubscribe : P (.unsubscribe link Topic.register)) (state : Machine.State) :
    CallsOnly P (replyTurn state link deadline) := by
  refine callsOnly_bind (callsOnly_request hreceive) fun received => ?_
  match received with
  | .error _ => exact callsOnly_pure _
  | .ok none => exact callsOnly_pure _
  | .ok (some message) =>
    dsimp only
    split
    · exact callsOnly_pure _
    · refine callsOnly_bind (acceptReply_callsOnly hstore _ _) fun accepted => ?_
      match accepted with
      | .error _ => exact callsOnly_pure _
      | .ok none => exact callsOnly_pure _
      | .ok (some _) =>
        refine callsOnly_bind (callsOnly_discard (callsOnly_request hunsubscribe)) fun _ => ?_
        exact callsOnly_pure _

end

theorem exchange_permitted (state : Machine.State) (link : Link) :
    CallsOnly (Permitted identity config) (exchange identity config state link) := by
  refine callsOnly_bind (callsOnly_request rfl) fun subscribed => ?_
  cases subscribed with
  | error error => exact callsOnly_pure _
  | ok =>
    refine callsOnly_bind (callsOnly_request ⟨rfl, rfl⟩) fun published => ?_
    cases published with
    | error error => exact callsOnly_pure _
    | ok =>
      refine callsOnly_bind (callsOnly_request trivial) fun now => ?_
      refine callsOnly_iterate (fun _ => ?_) ()
      exact replyTurn_callsOnly (P := Permitted identity config) trivial (fun _ => trivial) rfl _

/-- An attempt makes no other calls. -/
theorem attempt_permitted (state : Machine.State) :
    CallsOnly (Permitted identity config) (attempt identity config state) := by
  refine callsOnly_bind (callsOnly_request rfl) fun connected => ?_
  cases connected with
  | error error => exact callsOnly_pure _
  | ok link =>
    refine callsOnly_bind (exchange_permitted _ _) fun _ => ?_
    exact callsOnly_bind (callsOnly_request trivial) fun _ => callsOnly_pure _

/-- Apart from what its attempts ask for, the session waits between two of them and tells of its
moves. It tells that the device is registered only when an attempt has brought the credentials. -/
def Asked (identity : DeviceIdentity) (config : Config) (before : List (Exchange World)) :
    WorldCall → Prop
  | .announce state => state = .awaitingReply ∨
      state = .registered ∧ ∃ earlier attempt c, before = earlier ++ attempt ∧
        puts earlier = [] ∧ Replied config c attempt
  | .pause milliseconds => milliseconds = config.retry.interval
  | other => Permitted identity config other

theorem Asked.of_permitted {before : List (Exchange World)} {wanted : WorldCall}
    (h : Permitted identity config wanted) : Asked identity config before wanted := by
  cases wanted with
  | announce state => exact h.elim
  | pause milliseconds => exact h.elim
  | _ => exact h

theorem Asked.prepend {before rest : List (Exchange World)} {wanted : WorldCall}
    (h : Asked identity config rest wanted) (hbefore : puts before = []) :
    Asked identity config (before ++ rest) wanted := by
  cases wanted with
  | announce state =>
    rcases h with h | ⟨h, earlier, attempt, c, rfl, hquiet, hreplied⟩
    · exact .inl h
    · refine .inr ⟨h, before ++ earlier, attempt, c, (List.append_assoc ..).symm, ?_, hreplied⟩
      exact (puts_append_of_quiet hbefore _).trans hquiet
  | _ => exact h

theorem tryOnce_asks (hstate : m.state = .unregistered ∨ m.state = .awaitingReply)
    {wanted : WorldCall} (h : Asks ((tryOnce identity config).run m) trace wanted) :
    Asked identity config trace wanted := by
  have hstarted := Machine.handle_registrationStarted hstate
  rcases Session.asks_tell_bind.mp h with ⟨rfl, _, target, hmoved, rfl⟩ | ⟨_, hbody, rfl⟩
  · rw [Machine.state_of_moved hmoved] at hstarted
    exact .inl hstarted
  · apply Asked.prepend _ (puts_announcement _)
    rcases Session.asks_bind.mp (Session.asks_get_bind.mp hbody) with
      htry | ⟨_, _, _, _, hlift, hresult, rfl⟩
    · exact .of_permitted (attempt_permitted _ _ _ (Session.asks_lift.mp htry))
    · obtain ⟨hattempt, rfl⟩ := Session.runs_lift.mp hlift
      rcases attempt_spec hattempt with
        ⟨c, rfl, hreplied⟩ | ⟨c, error, rfl, _⟩ | ⟨setback, rfl, hsetback, _⟩
      · rcases Session.asks_tell_bind.mp hresult with
          ⟨rfl, _, target, hmoved, rfl⟩ | ⟨_, hdone, _⟩
        · rw [Machine.handle_registrationAccepted hstarted] at hmoved
          cases hmoved
          exact .inr ⟨rfl, [], _, c, by simp, rfl, hreplied⟩
        · exact (Session.asks_pure.mp hdone).elim
      · exact (Session.asks_pure.mp hresult).elim
      · cases setback with
        | storage error => exact absurd rfl (hsetback error)
        | bus error => exact (Session.asks_pure.mp hresult).elim
        | timeout => exact (Session.asks_pure.mp hresult).elim

theorem attempts_asks {more : Nat}
    (hstate : m.state = .unregistered ∨ m.state = .awaitingReply)
    {wanted : WorldCall} (h : Asks ((attempts identity config more).run m) trace wanted) :
    Asked identity config trace wanted := by
  induction more generalizing m trace with
  | zero =>
    rcases Session.asks_bind.mp h with htry | ⟨_, o, _, _, _, hrest, _⟩
    · exact tryOnce_asks hstate htry
    · cases o <;> exact (Session.asks_pure.mp hrest).elim
  | succ more ih =>
    rcases Session.asks_bind.mp h with hfirst | ⟨_, _, _, _, htry, hrest, rfl⟩
    · exact tryOnce_asks hstate hfirst
    · obtain ⟨_, ⟨rfl, hend, hquiet⟩ | ⟨_, rfl, _⟩⟩ := tryOnce_spec hstate htry
      · apply Asked.prepend _ hquiet
        rcases Session.asks_bind.mp hrest with hpause | ⟨_, _, _, _, hpause, hagain, rfl⟩
        · obtain ⟨-, rfl⟩ := asks_request.mp (Session.asks_lift.mp hpause)
          rfl
        · obtain ⟨rfl, rfl⟩ := Session.runs_request.mp hpause
          exact (ih (.inr hend) hagain).prepend rfl
      · exact (Session.asks_pure.mp hrest).elim

/-- Every call of a session is one that it may ask for. -/
theorem run_asked (hstate : m.state = .unregistered ∨ m.state = .awaitingReply)
    {result : Except Error Credentials}
    (h : Runs ((run identity config).run m) trace (result, m')) {e : Exchange World}
    (he : e ∈ trace) : ∃ before, Asked identity config before e.call := by
  rw [run_of_state hstate] at h
  obtain ⟨before, after, htrace⟩ := List.append_of_mem he
  exact ⟨before, attempts_asks hstate (h.asks htrace)⟩

/-- A session that has asked for nothing else has published requests only, and fetched nothing. -/
theorem deed_of_asked (h : ∀ e ∈ trace, ∃ before, Asked identity config before e.call) {d : Deed}
    (hd : d ∈ deeds trace) : d = .published Topic.register identity.request.bytes := by
  obtain ⟨⟨wanted, r⟩, he, hdeed⟩ := List.mem_filterMap.mp hd
  obtain ⟨before, hasked⟩ := h _ he
  cases wanted with
  | publish link topic payload =>
    obtain ⟨rfl, rfl⟩ : Permitted identity config (.publish link topic payload) := hasked
    cases hdeed
    rfl
  | start task => exact False.elim hasked
  | turn task listening => exact False.elim hasked
  | _ => cases hdeed

/-! ## What a result tells -/

/-- A reply that carries the credentials `c` was heard on the registration topic, over a connection
that was opened with the shared login. -/
def Heard (config : Config) (c : Credentials) (trace : List (Exchange World)) : Prop :=
  ∃ link deadline message, ⟨.connect config.bootstrap, .ok link⟩ ∈ trace ∧
    ⟨.receiveBy link deadline, .ok (some message)⟩ ∈ trace ∧ message.topic = Topic.register ∧
    RegistrationReply.decode message.payload = .ok c

theorem Replied.heard (h : Replied config c trace) {before after : List (Exchange World)} :
    Heard config c (before ++ (trace ++ after)) := by
  obtain ⟨link, _, deadline, message, r, -, htopic, hdecode, rfl⟩ := h
  exact ⟨link, deadline, message, by simp, by simp, htopic, hdecode⟩

variable {result : Except Error Credentials}

theorem Course.puts_of_ok (h : Course config (.ok c) state trace) :
    puts trace = [(c, .ok ())] ∧ Heard config c trace ∧ state = .registered := by
  cases h with
  | registered hquiet hreplied =>
    exact ⟨hreplied.puts_session hquiet, hreplied.heard, rfl⟩

theorem Course.ok_iff (h : Course config result state trace) (c : Credentials) :
    result = .ok c ↔
      puts trace = [(c, .ok ())] ∧ Heard config c trace ∧ state = .registered := by
  constructor
  · rintro rfl
    exact h.puts_of_ok
  · rintro ⟨hputs, -, hstate⟩
    cases h with
    | registered hquiet hreplied =>
      rw [hreplied.puts_session hquiet] at hputs
      cases hputs
      rfl
    | refused _ => cases hstate
    | exhausted _ => cases hstate

theorem Course.storage_iff (h : Course config result state trace) (error : StoreError) :
    result = .error (.storage error) ↔ ∃ c, puts trace = [(c, .error error)] := by
  constructor
  · rintro rfl
    cases h with
    | refused hput => exact ⟨_, hput⟩
  · rintro ⟨c, hputs⟩
    cases h with
    | registered hquiet hreplied =>
      rw [hreplied.puts_session hquiet] at hputs
      cases hputs
    | refused hput =>
      rw [hput] at hputs
      cases hputs
      rfl
    | exhausted hquiet =>
      rw [hquiet] at hputs
      cases hputs

theorem Course.exhausted_iff (h : Course config result state trace) (n : UInt32) :
    result = .error (.retryExhausted n) ↔ puts trace = [] ∧ n = config.retry.attempts := by
  constructor
  · rintro rfl
    cases h with
    | exhausted hquiet => exact ⟨hquiet, rfl⟩
  · rintro ⟨hputs, rfl⟩
    cases h with
    | registered hquiet hreplied =>
      rw [hreplied.puts_session hquiet] at hputs
      cases hputs
    | refused hput =>
      rw [hput] at hputs
      cases hputs
    | exhausted _ => rfl

theorem Course.state_of_error {error : Error} (h : Course config (.error error) state trace) :
    state = .awaitingReply := by
  cases h <;> rfl

/-- Once a device is registered, however many payloads come, none is stored. -/
theorem acceptReplies_registered (payloads : List Bytes) :
    payloads.mapM (acceptReply .registered) = pure (payloads.map fun _ => .ok none) := by
  have h : acceptReply .registered = fun _ => pure (.ok none) :=
    funext (acceptReply_of_ne nofun)
  rw [h]
  exact List.mapM_pure

/-- A registration that returns has made exactly one put that succeeded, of credentials that it
heard, and the machine is registered; or one put that failed, or none, and a reply is still awaited.
Nothing makes the device registered before the put has succeeded and the connection that brought the
reply is closed, and nothing is stored after it. -/
theorem run_puts (hstate : m.state = .unregistered ∨ m.state = .awaitingReply) :
    (∀ trace result m', Runs ((run identity config).run m) trace (result, m') →
      (∀ c, result = .ok c ↔
        puts trace = [(c, .ok ())] ∧ Heard config c trace ∧ m'.state = .registered) ∧
      (∀ error, result = .error (.storage error) ↔ ∃ c, puts trace = [(c, .error error)]) ∧
      (∀ n, result = .error (.retryExhausted n) ↔
        puts trace = [] ∧ n = config.retry.attempts) ∧
      (∀ error, result = .error error → m'.state = .awaitingReply) ∧
      ∀ c, result = .ok c → ∀ (payloads : List Bytes) made replies,
        Runs (payloads.mapM (acceptReply m'.state)) made replies ↔
          made = [] ∧ replies = payloads.map fun _ => .ok none) ∧
    ∀ trace, Asks ((run identity config).run m) trace (.announce .registered) →
      ∃ earlier attempt c, trace = earlier ++ attempt ∧ puts earlier = [] ∧
        Replied config c attempt := by
  rw [run_of_state hstate]
  constructor
  · intro trace result m' h
    obtain ⟨-, hcourse⟩ := attempts_spec hstate h
    refine ⟨hcourse.ok_iff, hcourse.storage_iff, hcourse.exhausted_iff, ?_, ?_⟩
    · rintro error rfl
      exact hcourse.state_of_error
    · intro c hok payloads made replies
      have hregistered := ((hcourse.ok_iff c).mp hok).2.2
      rw [hregistered, acceptReplies_registered, runs_pure]
  · intro trace h
    rcases attempts_asks hstate h with heq | ⟨_, hreplied⟩
    · cases heq
    · exact hreplied

/-- What a backend issues on the bench. -/
def issued : Credentials :=
  ⟨"device", "user", "password", "client"⟩

/-- The first connection of a device on the bench is refused. On the second the reply to its request
comes at once. -/
def rehearsal : Bench where
  limit := 100
  connects := [
    { refusal := some "unreachable" },
    { onPublish := [
        (0, { message := ⟨Topic.register, (RegistrationReply.document issued).bytes⟩ })] }]

/-- A policy that allows two attempts. -/
def rehearsalConfig : Config where
  bootstrap := { clientId := "new" }
  replyTimeout := 10
  retry := { maxAttempts := 2, interval := 1 }

/-- The device on the bench. -/
def rehearsalIdentity : DeviceIdentity where
  mac := ⟨[2, 0, 0, 0, 0, 1], rfl⟩
  version := "1"

/-- A registration under this policy. -/
def rehearsed : Program World (Except Error Credentials × Machine) :=
  (run rehearsalIdentity rehearsalConfig).run (.new 1)

/-- How it ends. -/
def rehearsalEnd : Machine where
  state := .registered
  budget := 1
  watched := { value := .registered, changes := 2 }

theorem run_puts_rehearsed :
    ∃ trace, Runs rehearsed trace (.ok issued, rehearsalEnd) ∧
      puts trace = [(issued, .ok ())] ∧ Heard rehearsalConfig issued trace := by
  have hend : (rehearsed.run Bench.answer.recorded 4 (rehearsal, [])).1 =
      some (.ok issued, rehearsalEnd) := by
    decide +kernel
  obtain ⟨hruns, -⟩ := runs_of_run hend
  have hunregistered : (Machine.new 1).state = .unregistered := rfl
  obtain ⟨hok, -⟩ := (run_puts (.inl hunregistered)).1 _ _ _ hruns
  obtain ⟨hputs, hheard, -⟩ := (hok issued).mp rfl
  exact ⟨_, hruns, hputs, hheard⟩

end UpdateAgent.Registration
