import UpdateAgent.Proofs.Message.Reply
import UpdateAgent.Proofs.Parallel
import UpdateAgent.Proofs.Session.Cycle
import UpdateAgent.Proofs.Session.FirstReply

/-!
# Where a password goes

A device uses its password for its login and stores it, and that is all. Of two cycles whose
credentials differ in the password, stored or issued, each does what the other does, in surroundings
that do not care about passwords (`password_confined`).
-/

namespace UpdateAgent

open Program Trace

/-! ## Agreement but for the password -/

/-- The credentials differ in the password at most. -/
structure Credentials.Agree (c c' : Credentials) : Prop where
  deviceId : c.deviceId = c'.deviceId
  username : c.username = c'.username
  clientId : c.clientId = c'.clientId

/-- The logins differ in the password at most, which neither lacks or both do. -/
structure Login.Agree (login login' : Login) : Prop where
  clientId : login.clientId = login'.clientId
  username : login.username = login'.username
  password : login.password.isSome = login'.password.isSome

theorem Credentials.agree_refl (c : Credentials) : c.Agree c :=
  ⟨rfl, rfl, rfl⟩

theorem Login.agree_refl (login : Login) : login.Agree login :=
  ⟨rfl, rfl, rfl⟩

theorem Credentials.Agree.login {c c' : Credentials} (h : c.Agree c') :
    (Login.ofCredentials c).Agree (.ofCredentials c') :=
  ⟨h.clientId, congrArg some h.username, rfl⟩

/-- No password is shown. -/
theorem Credentials.Agree.shown {c c' : Credentials} (h : c.Agree c') : c.shown = c'.shown := by
  rw [Credentials.shown, h.deviceId, h.username, h.clientId, Credentials.shown]

theorem Login.Agree.shown {login login' : Login} (h : login.Agree login') :
    login.shown = login'.shown := by
  -- All that is shown of a password is whether there is one.
  have hredacted (password : Option String) :
      password.map (fun _ => redacted) = if password.isSome then some redacted else none := by
    cases password <;> rfl
  rw [Login.shown, h.clientId, h.username, hredacted, h.password, ← hredacted, Login.shown]

/-- The calls differ at most in the password of a login or of what is stored. -/
inductive WorldCall.Agree : WorldCall → WorldCall → Prop
  | same (c : WorldCall) : Agree c c
  | connect {login login' : Login} (h : login.Agree login') :
      Agree (.connect login) (.connect login')
  | store {c c' : Credentials} (h : c.Agree c') : Agree (.store c) (.store c')

/-- The messages are the same, or replies that are accepted with credentials that agree. -/
inductive Message.Agree : Message → Message → Prop
  | same (message : Message) : Agree message message
  | offer {message message' : Message} {c c' : Credentials}
      (h : Registration.offer? message = some c) (h' : Registration.offer? message' = some c')
      (agree : c.Agree c') : Agree message message'

/-- The calls and the replies to them differ in a password at most: in a login, in what is stored,
or in what is issued. -/
inductive Agrees : Exchange World → Exchange World → Prop
  | same (e : Exchange World) : Agrees e e
  | connect {login login' : Login} (h : login.Agree login') (r : Except BusError Link) :
      Agrees ⟨.connect login, r⟩ ⟨.connect login', r⟩
  | store {c c' : Credentials} (h : c.Agree c') (r : Except StoreError Unit) :
      Agrees ⟨.store c, r⟩ ⟨.store c', r⟩
  | load {c c' : Credentials} (h : c.Agree c') :
      Agrees ⟨.load, .ok (some c)⟩ ⟨.load, .ok (some c')⟩
  | heard {call : WorldCall} {r r' : WorldReply call} {message message' : Message}
      (hears : message? ⟨call, r⟩ = some message) (hears' : message? ⟨call, r'⟩ = some message')
      (h : message.Agree message') : Agrees ⟨call, r⟩ ⟨call, r'⟩

/-- Replies to one call are the same, or messages that agree. -/
theorem Agrees.message {call : WorldCall} {r r' : WorldReply call}
    (h : Agrees ⟨call, r⟩ ⟨call, r'⟩) (hload : call ≠ .load) :
    (r = r' ∧ message? ⟨call, r⟩ = none) ∨ ∃ message message', message? ⟨call, r⟩ = some message ∧
      message? ⟨call, r'⟩ = some message' ∧ message.Agree message' := by
  cases h with
  | same =>
    cases hmessage : message? ⟨call, r⟩ with
    | none => exact .inl ⟨rfl, rfl⟩
    | some message => exact .inr ⟨message, message, rfl, rfl, .same message⟩
  | connect => exact .inl ⟨rfl, rfl⟩
  | store => exact .inl ⟨rfl, rfl⟩
  | load => exact absurd rfl hload
  | heard hears hears' h => exact .inr ⟨_, _, hears, hears', h⟩

/-- What is published, fetched and announced tells no passwords. -/
theorem Agrees.views {e e' : Exchange World} (h : Agrees e e') :
    e.call.Agree e'.call ∧ deed? e = deed? e' ∧ announced? e = announced? e' := by
  cases h with
  | same e => exact ⟨.same e.call, rfl, rfl⟩
  | connect h => exact ⟨.connect h, rfl, rfl⟩
  | store h => exact ⟨.store h, rfl, rfl⟩
  | load h => exact ⟨.same _, rfl, rfl⟩
  | heard hears hears' h =>
    obtain ⟨hdeed, -, hstate⟩ := views_of_message hears
    obtain ⟨hdeed', -, hstate'⟩ := views_of_message hears'
    rw [hdeed, hdeed', hstate, hstate']
    exact ⟨.same _, rfl, rfl⟩

/-- What was done is told apart by no password. -/
theorem views_of_agrees {trace trace' : List (Exchange World)}
    (h : List.Forall₂ Agrees trace trace') :
    List.Forall₂ WorldCall.Agree (trace.map Exchange.call) (trace'.map Exchange.call) ∧
      deeds trace = deeds trace' ∧ states trace = states trace' := by
  induction h with
  | nil => exact ⟨.nil, rfl, rfl⟩
  | cons he _ ih =>
    obtain ⟨hcall, hdeed, hstate⟩ := he.views
    obtain ⟨hcalls, hdeeds, hstates⟩ := ih
    refine ⟨.cons hcall hcalls, ?_, ?_⟩
    · rw [deeds, deeds] at hdeeds ⊢
      rw [List.filterMap_cons, List.filterMap_cons, hdeed, hdeeds]
    · rw [states, states] at hstates ⊢
      rw [List.filterMap_cons, List.filterMap_cons, hstate, hstates]

/-! ## Programs that go the same way -/

/-- The programs go the same way whatever the passwords are, to related results. -/
abbrev Alike {α α' : Type} (R : α → α' → Prop) (p : Program World α) (p' : Program World α') :
    Prop :=
  Parallel WorldCall.Agree Agrees R p p'

/-- The same error, or results that are related. -/
inductive SameError {ε α α' : Type} (R : α → α' → Prop) : Except ε α → Except ε α' → Prop
  | error (e : ε) : SameError R (.error e) (.error e)
  | ok {a : α} {a' : α'} (h : R a a') : SameError R (.ok a) (.ok a')

/-- Messages that agree have one topic, and as replies they are taken alike. -/
theorem Message.Agree.taken {message message' : Message} (h : message.Agree message') :
    message.topic = message'.topic ∧ SameError Credentials.Agree
      (RegistrationReply.decode message.payload) (RegistrationReply.decode message'.payload) := by
  cases h with
  | same =>
    refine ⟨rfl, ?_⟩
    cases RegistrationReply.decode message.payload with
    | error error => exact .error error
    | ok c => exact .ok c.agree_refl
  | offer h h' agree =>
    obtain ⟨htopic, hdecode⟩ := Registration.offer?_eq_some_iff.mp h
    obtain ⟨htopic', hdecode'⟩ := Registration.offer?_eq_some_iff.mp h'
    rw [hdecode, hdecode']
    exact ⟨htopic.trans htopic'.symm, .ok agree⟩

/-- Elsewhere they are the same. -/
theorem Message.Agree.eq_of_topic {message message' : Message} (h : message.Agree message')
    (htopic : message.topic ≠ Topic.register) : message = message' := by
  cases h with
  | same => rfl
  | offer h => exact absurd (Registration.offer?_eq_some_iff.mp h).1 htopic

variable {α α' β β' σ σ' : Type} {R : α → α' → Prop} {Q : β → β' → Prop}

theorem alike_request {c c' : WorldCall} (h : c.Agree c') :
    Alike (fun r r' => Agrees ⟨c, r⟩ ⟨c', r'⟩) (request World c) (request World c') :=
  parallel_request (I := World) (C := WorldCall.Agree) h

/-- A call that brings no message. -/
theorem alike_quiet {c : WorldCall} (hquiet : ∀ r, message? ⟨c, r⟩ = none) (hload : c ≠ .load) :
    Alike Eq (request World c) (request World c) := by
  refine (alike_request (.same c)).mono fun r r' h => ?_
  rcases h.message hload with ⟨heq, -⟩ | ⟨_, _, hears, -⟩
  · exact heq
  · rw [hquiet r] at hears
    cases hears

theorem alike_connect {login login' : Login} (h : login.Agree login') :
    Alike Eq (request World (.connect login)) (request World (.connect login')) := by
  refine (alike_request (.connect h)).mono fun r r' h => ?_
  cases h with
  | same => rfl
  | connect => rfl
  | heard hears => cases hears

theorem alike_store {c c' : Credentials} (h : c.Agree c') :
    Alike Eq (request World (.store c)) (request World (.store c')) := by
  refine (alike_request (.store h)).mono fun r r' h => ?_
  cases h with
  | same => rfl
  | store => rfl
  | heard hears => cases hears

theorem alike_receive (link : Link) :
    Alike (SameError Message.Agree) (World.receive link) (World.receive link) := by
  refine (alike_request (.same (.receive link))).mono fun r r' h => ?_
  rcases h.message nofun with ⟨rfl, hnone⟩ | ⟨_, _, hears, hears', hagree⟩
  · match r, hnone with
    | .error error, _ => exact .error error
  · match r, r', hears, hears' with
    | .ok message, .ok message', hears, hears' =>
      cases hears
      cases hears'
      exact .ok hagree

theorem alike_receiveBy (link : Link) (deadline : Nat) :
    Alike (SameError (Option.Rel Message.Agree)) (World.receiveBy link deadline)
      (World.receiveBy link deadline) := by
  refine (alike_request (.same (.receiveBy link deadline))).mono fun r r' h => ?_
  rcases h.message nofun with ⟨rfl, hnone⟩ | ⟨_, _, hears, hears', hagree⟩
  · match r, hnone with
    | .error error, _ => exact .error error
    | .ok none, _ => exact .ok .none
  · match r, r', hears, hears' with
    | .ok (some message), .ok (some message'), hears, hears' =>
      cases hears
      cases hears'
      exact .ok (.some hagree)

/-- The same happens while a task goes on, but for messages that agree. -/
inductive Turn.Agree {γ : Type} : Turn γ → Turn γ → Prop
  | ended (result : γ) : Agree (.over result) (.over result)
  | lost (error : BusError) : Agree (.lost error) (.lost error)
  | heard {message message' : Message} (h : message.Agree message') :
      Agree (.heard message) (.heard message')

theorem alike_turn (task : Task) (listening : Option Link) :
    Alike Turn.Agree (World.turn task listening) (World.turn task listening) := by
  refine (alike_request (.same (.turn task listening))).mono fun r r' h => ?_
  rcases h.message nofun with ⟨rfl, hnone⟩ | ⟨_, _, hears, hears', hagree⟩
  · match r, hnone with
    | .over result, _ => exact .ended result
    | .lost error, _ => exact .lost error
  · match r, r', hears, hears' with
    | .heard message, .heard message', hears, hears' =>
      cases hears
      cases hears'
      exact .heard hagree

/-- What is made of the same result. -/
theorem alike_bind_of_eq {γ : Type} {p p' : Program World γ} {f : γ → Program World β}
    {f' : γ → Program World β'} (hp : Alike Eq p p') (hf : ∀ a, Alike Q (f a) (f' a)) :
    Alike Q (p >>= f) (p' >>= f') := by
  refine parallel_bind hp ?_
  rintro a _ rfl
  exact hf a

theorem alike_discard {γ : Type} {p p' : Program World γ} (hp : Alike Eq p p') :
    Alike Eq (discard p : Program World Unit) (discard p') :=
  alike_bind_of_eq hp fun _ => parallel_pure rfl

/-- The sessions go the same way with the same machine. -/
def Session.Alike (R : α → α' → Prop) (x : Session α) (x' : Session α') : Prop :=
  ∀ m, UpdateAgent.Alike (fun r r' => R r.1 r'.1 ∧ r.2 = r'.2) (x.run m) (x'.run m)

namespace Session

theorem alike_pure {a : α} {a' : α'} (h : R a a') :
    Session.Alike R (pure a : Session α) (pure a' : Session α') :=
  fun _ => parallel_pure ⟨h, rfl⟩

theorem alike_bind {x : Session α} {x' : Session α'} {f : α → Session β} {f' : α' → Session β'}
    (hx : Session.Alike R x x') (hf : ∀ a a', R a a' → Session.Alike Q (f a) (f' a')) :
    Session.Alike Q (x >>= f) (x' >>= f') := by
  intro m
  rw [StateT.run_bind, StateT.run_bind]
  refine parallel_bind (hx m) ?_
  rintro ⟨a, m₁⟩ ⟨a', _⟩ ⟨ha, rfl⟩
  exact hf a a' ha m₁

/-- What is made of the same result. -/
theorem alike_bind_of_eq {γ : Type} {x x' : Session γ} {f : γ → Session β} {f' : γ → Session β'}
    (hx : Session.Alike Eq x x') (hf : ∀ a, Session.Alike Q (f a) (f' a)) :
    Session.Alike Q (x >>= f) (x' >>= f') := by
  refine alike_bind hx ?_
  rintro a _ rfl
  exact hf a

theorem alike_lift {p : Program World α} {p' : Program World α'} (hp : UpdateAgent.Alike R p p') :
    Session.Alike R (liftM p : Session α) (liftM p' : Session α') :=
  fun _ => parallel_bind hp fun _ _ ha => parallel_pure ⟨ha, rfl⟩

theorem alike_get : Session.Alike Eq (get : Session Machine) get :=
  fun _ => parallel_pure ⟨rfl, rfl⟩

theorem alike_handle (event : Machine.Event) :
    Session.Alike Eq (Session.handle event) (Session.handle event) := by
  intro m
  rw [handle_run]
  refine UpdateAgent.alike_bind_of_eq ?_ fun _ => parallel_pure ⟨rfl, rfl⟩
  split
  · exact alike_quiet (c := .announce _) (fun _ => rfl) nofun
  · exact parallel_pure rfl

/-- An event that the sessions tell their machines of first. -/
theorem alike_tell_bind {event : Machine.Event} {f : Unit → Session β} {f' : Unit → Session β'}
    (hf : Session.Alike Q (f ()) (f' ())) :
    Session.Alike Q (discard (Session.handle event) >>= f)
      (discard (Session.handle event) >>= f') := by
  have htell : Session.Alike Eq (discard (Session.handle event) : Session Unit)
      (discard (Session.handle event)) :=
    fun m => parallel_bind (alike_handle event m) fun _ _ h => parallel_pure ⟨rfl, h.2⟩
  exact alike_bind_of_eq htell fun _ => hf

theorem alike_iterate {S : σ → σ' → Prop} {body : σ → Session (Next σ β)}
    {body' : σ' → Session (Next σ' β')}
    (hbody : ∀ s s', S s s' → Session.Alike (Next.Both S Q) (body s) (body' s')) {s : σ} {s' : σ'}
    (hs : S s s') : Session.Alike Q (Session.iterate s body) (Session.iterate s' body') := by
  intro m
  rw [iterate_run, iterate_run]
  refine parallel_iterate (S := fun p p' => S p.1 p'.1 ∧ p.2 = p'.2) ?_ ⟨hs, rfl⟩
  rintro ⟨s, m⟩ ⟨s', _⟩ ⟨hs, rfl⟩
  refine parallel_bind (hbody s s' hs m) ?_
  rintro ⟨n, m₁⟩ ⟨n', _⟩ ⟨hn, rfl⟩
  cases hn with
  | again h => exact parallel_pure (.again ⟨h, rfl⟩)
  | finish h => exact parallel_pure (.finish ⟨h, rfl⟩)

end Session

/-! ## Registration -/

namespace Registration

variable {identity : DeviceIdentity} {config : Config} {state : Machine.State} {link : Link}

theorem acceptReply_alike {payload payload' : Bytes}
    (h : SameError Credentials.Agree (RegistrationReply.decode payload)
      (RegistrationReply.decode payload')) :
    Alike (SameError (Option.Rel Credentials.Agree)) (acceptReply state payload)
      (acceptReply state payload') := by
  rw [acceptReply, acceptReply]
  generalize RegistrationReply.decode payload = decoded at h ⊢
  generalize RegistrationReply.decode payload' = decoded' at h ⊢
  split
  · exact parallel_pure (.ok .none)
  · cases h with
    | error error => exact parallel_pure (.ok .none)
    | ok h =>
      refine alike_bind_of_eq (alike_store h) fun stored => ?_
      cases stored with
      | error error => exact parallel_pure (.error error)
      | ok => exact parallel_pure (.ok (.some h))

theorem replyTurn_alike (deadline : Nat) :
    Alike (Next.Both Eq (SameError Credentials.Agree)) (replyTurn state link deadline)
      (replyTurn state link deadline) := by
  refine parallel_bind (alike_receiveBy link deadline) fun r r' h => ?_
  match r, r', h with
  | _, _, .error error => exact parallel_pure (.finish (.error _))
  | _, _, .ok .none => exact parallel_pure (.finish (.error _))
  | _, _, .ok (.some hagree) =>
    obtain ⟨htopic, hreply⟩ := hagree.taken
    dsimp only
    rw [← htopic]
    split
    · exact parallel_pure (.again rfl)
    refine parallel_bind (acceptReply_alike hreply) fun accepted accepted' h => ?_
    match accepted, accepted', h with
    | _, _, .error error => exact parallel_pure (.finish (.error _))
    | _, _, .ok .none => exact parallel_pure (.again rfl)
    | _, _, .ok (.some hc) =>
      refine alike_bind_of_eq (alike_discard ?_) fun _ => parallel_pure (.finish (.ok hc))
      exact alike_quiet (c := .unsubscribe link Topic.register) (fun _ => rfl) nofun

theorem exchange_alike :
    Alike (SameError Credentials.Agree) (exchange identity config state link)
      (exchange identity config state link) := by
  refine alike_bind_of_eq (alike_quiet (c := .subscribe link _) (fun _ => rfl) nofun) fun r => ?_
  cases r with
  | error error => exact parallel_pure (.error _)
  | ok =>
    refine alike_bind_of_eq (alike_quiet (c := .publish link _ _) (fun _ => rfl) nofun) fun r => ?_
    cases r with
    | error error => exact parallel_pure (.error _)
    | ok =>
      refine alike_bind_of_eq (alike_quiet (c := .now) (fun _ => rfl) nofun) fun now => ?_
      refine parallel_iterate ?_ rfl
      rintro _ _ rfl
      exact replyTurn_alike _

theorem attempt_alike :
    Alike (SameError Credentials.Agree) (attempt identity config state)
      (attempt identity config state) := by
  refine alike_bind_of_eq (alike_connect config.bootstrap.agree_refl) fun r => ?_
  cases r with
  | error error => exact parallel_pure (.error _)
  | ok link =>
    refine parallel_bind exchange_alike fun result result' h => ?_
    refine alike_bind_of_eq (alike_quiet (c := .close link) (fun _ => rfl) nofun) fun _ => ?_
    exact parallel_pure h

theorem tryOnce_alike :
    Session.Alike (Option.Rel (SameError Credentials.Agree)) (tryOnce identity config)
      (tryOnce identity config) := by
  refine Session.alike_tell_bind ?_
  refine Session.alike_bind_of_eq Session.alike_get fun m => ?_
  refine Session.alike_bind (Session.alike_lift attempt_alike) fun tried tried' h => ?_
  cases h with
  | ok h => exact Session.alike_tell_bind (Session.alike_pure (.some (.ok h)))
  | error setback =>
    cases setback with
    | storage error => exact Session.alike_pure (.some (.error _))
    | bus error => exact Session.alike_pure .none
    | timeout => exact Session.alike_pure .none

theorem attempts_alike (more : Nat) :
    Session.Alike (SameError Credentials.Agree) (attempts identity config more)
      (attempts identity config more) := by
  induction more with
  | zero =>
    refine Session.alike_bind tryOnce_alike fun o o' h => ?_
    cases h with
    | some h => exact Session.alike_pure h
    | none => exact Session.alike_pure (.error _)
  | succ more ih =>
    refine Session.alike_bind tryOnce_alike fun o o' h => ?_
    cases h with
    | some h => exact Session.alike_pure h
    | none =>
      have hpause := alike_quiet (c := .pause config.retry.interval) (fun _ => rfl) nofun
      exact Session.alike_bind_of_eq (Session.alike_lift hpause) fun _ => ih

theorem run_alike (identity : DeviceIdentity) (config : Config) :
    Session.Alike (SameError Credentials.Agree) (run identity config) (run identity config) := by
  refine Session.alike_bind_of_eq Session.alike_get fun m => ?_
  split
  · exact attempts_alike _
  · exact attempts_alike _
  · exact Session.alike_pure (.error _)

end Registration

/-! ## Update -/

namespace Update

variable {deviceId url : String} {config : Config} {link : Link}

theorem report_alike (r : StatusReport) :
    Session.Alike Eq (liftM (report deviceId link r) : Session Unit)
      (liftM (report deviceId link r)) :=
  Session.alike_lift (alike_discard (alike_quiet (c := .publish link _ _) (fun _ => rfl) nofun))

theorem drainTurn_alike (task : Task) (isAlive : Bool) :
    Session.Alike (Next.Both Eq Eq) (drainTurn deviceId link task isAlive)
      (drainTurn deviceId link task isAlive) := by
  refine Session.alike_bind (Session.alike_lift (alike_turn task _)) fun r r' h => ?_
  cases h with
  | ended result => exact Session.alike_pure (.finish rfl)
  | lost error => exact Session.alike_pure (.again rfl)
  | heard hagree =>
    dsimp only
    rw [← hagree.taken.1]
    split
    · rename_i htopic
      -- Nothing else is heard where triggers are.
      obtain rfl := hagree.eq_of_topic (htopic ▸ Topic.update_ne_register deviceId)
      split
      · exact Session.alike_tell_bind (Session.alike_pure (.again rfl))
      · exact Session.alike_pure (.again rfl)
    · exact Session.alike_pure (.again rfl)

theorem drain_alike (isAlive : Bool) (task : Task) :
    Session.Alike Eq (drain deviceId link isAlive task) (drain deviceId link isAlive task) := by
  have hstart := alike_quiet (c := .start task) (fun _ => rfl) nofun
  refine Session.alike_bind_of_eq (Session.alike_lift hstart) fun _ => ?_
  refine Session.alike_iterate ?_ rfl
  rintro isAlive _ rfl
  exact drainTurn_alike task isAlive

theorem superviseTurn_alike (isAlive : Bool) :
    Session.Alike (Next.Both Eq Eq) (superviseTurn deviceId config link url isAlive)
      (superviseTurn deviceId config link url isAlive) := by
  refine Session.alike_bind_of_eq Session.alike_get fun m => ?_
  refine Session.alike_bind_of_eq (drain_alike _ _) fun r => ?_
  obtain ⟨_ | image, isAlive⟩ := r
  · refine Session.alike_tell_bind ?_
    refine Session.alike_bind_of_eq Session.alike_get fun m => ?_
    split
    · exact Session.alike_bind_of_eq (report_alike _) fun _ => Session.alike_pure (.finish rfl)
    · exact Session.alike_bind_of_eq (drain_alike _ _) fun _ => Session.alike_pure (.again rfl)
  · refine Session.alike_tell_bind ?_
    refine Session.alike_bind_of_eq (report_alike _) fun _ => ?_
    exact Session.alike_bind_of_eq (report_alike _) fun _ => Session.alike_pure (.finish rfl)

theorem supervise_alike :
    Session.Alike Eq (supervise deviceId config link url) (supervise deviceId config link url) := by
  refine Session.alike_iterate ?_ rfl
  rintro isAlive _ rfl
  exact superviseTurn_alike isAlive

theorem takeMessage_alike {message message' : Message} (h : message.Agree message') :
    Session.Alike Eq (takeMessage deviceId config link message)
      (takeMessage deviceId config link message') := by
  rw [takeMessage, takeMessage, ← h.taken.1]
  split
  · exact Session.alike_pure rfl
  · rename_i htopic
    -- A trigger holds no password.
    obtain rfl := h.eq_of_topic (not_not.mp htopic ▸ Topic.update_ne_register deviceId)
    split
    · exact Session.alike_pure rfl
    · refine Session.alike_bind_of_eq (Session.alike_handle _) fun t => ?_
      split
      · exact Session.alike_pure rfl
      · refine Session.alike_bind_of_eq (report_alike _) fun _ => ?_
        exact Session.alike_bind_of_eq supervise_alike fun _ => Session.alike_pure rfl

theorem serveTurn_alike :
    Session.Alike (Next.Both Eq Eq) (serveTurn deviceId config link)
      (serveTurn deviceId config link) := by
  refine Session.alike_bind (Session.alike_lift (alike_receive link)) fun r r' h => ?_
  cases h with
  | error error => exact Session.alike_pure (.finish rfl)
  | ok hagree =>
    refine Session.alike_bind_of_eq (takeMessage_alike hagree) fun o => ?_
    cases o with
    | some outcome => exact Session.alike_pure (.finish rfl)
    | none => exact Session.alike_pure (.again rfl)

theorem serve_alike :
    Session.Alike Eq (serve deviceId config link) (serve deviceId config link) := by
  have hsubscribe (topic : String) :=
    alike_quiet (c := .subscribe link topic) (fun _ => rfl) nofun
  refine Session.alike_bind_of_eq (Session.alike_lift (hsubscribe _)) fun r => ?_
  cases r with
  | error error => exact Session.alike_pure rfl
  | ok =>
    refine Session.alike_bind_of_eq (Session.alike_lift (hsubscribe _)) fun r => ?_
    cases r with
    | error error => exact Session.alike_pure rfl
    | ok =>
      refine Session.alike_tell_bind ?_
      refine Session.alike_iterate ?_ rfl
      rintro _ _ rfl
      exact serveTurn_alike

theorem run_alike {c c' : Credentials} (h : c.Agree c') (config : Config) :
    Session.Alike Eq (run c config) (run c' config) := by
  refine Session.alike_bind_of_eq Session.alike_get fun m => ?_
  rw [← h.deviceId]
  split
  · exact Session.alike_pure rfl
  split
  · exact Session.alike_pure rfl
  refine Session.alike_bind_of_eq (Session.alike_lift (alike_connect h.login)) fun r => ?_
  cases r with
  | error error => exact Session.alike_pure rfl
  | ok link =>
    refine Session.alike_bind_of_eq serve_alike fun result => ?_
    have hclose := alike_quiet (c := .close link) (fun _ => rfl) nofun
    exact Session.alike_bind_of_eq (Session.alike_lift hclose) fun _ => Session.alike_pure rfl

end Update

/-! ## The cycle -/

namespace Cycle

variable {config : CycleConfig}

/-- The cycles differ in the password of their credentials at most. -/
structure Agree (cycle cycle' : Cycle) : Prop where
  machine : cycle.machine = cycle'.machine
  credentials : Option.Rel Credentials.Agree cycle.credentials cycle'.credentials

theorem obtain_alike {o o' : Option Credentials} (h : Option.Rel Credentials.Agree o o') :
    Session.Alike (SameError Credentials.Agree) (obtain config o) (obtain config o') := by
  cases h with
  | some h => exact Session.alike_pure (.ok h)
  | none => exact Registration.run_alike _ _

theorem provision_alike {o o' : Option Credentials} (h : Option.Rel Credentials.Agree o o') :
    Session.Alike Eq (provision config o) (provision config o') := by
  refine Session.alike_bind (obtain_alike h) fun r r' h => ?_
  cases h with
  | error error => exact Session.alike_pure rfl
  | ok h =>
    refine Session.alike_bind_of_eq (Update.run_alike h _) fun result => ?_
    match result with
    | .error _ => exact Session.alike_pure rfl
    | .ok (.updated _) => exact Session.alike_pure rfl
    | .ok (.failed _ _) => exact Session.alike_pure rfl

theorem run_alike {cycle cycle' : Cycle} (h : cycle.Agree cycle') :
    Alike Eq (run config cycle) (run config cycle') := by
  rw [run, run, ← h.machine]
  refine parallel_bind (provision_alike h.credentials cycle.machine) ?_
  rintro ⟨outcome, m⟩ ⟨outcome', m'⟩ ⟨houtcome, hmachine⟩
  obtain rfl : outcome = outcome' := houtcome
  obtain rfl : m = m' := hmachine
  exact parallel_pure rfl

theorem prepare_agree {o o' : Option Credentials} (h : Option.Rel Credentials.Agree o o') :
    (prepare config o).Agree (prepare config o') := by
  cases h with
  | some h => exact ⟨rfl, .some h⟩
  | none => exact ⟨rfl, .none⟩

theorem load_alike : Alike Agree (load config) (load config) := by
  refine parallel_bind (alike_request (.same .load)) fun r r' h => ?_
  cases h with
  | same =>
    match r with
    | .error _ => exact parallel_pure (prepare_agree .none)
    | .ok none => exact parallel_pure (prepare_agree .none)
    | .ok (some c) => exact parallel_pure (prepare_agree (.some c.agree_refl))
  | load h => exact parallel_pure (prepare_agree (.some h))
  | heard hears => cases hears

/-- The cycles do the same in surroundings that do not care about passwords, whatever the passwords
are that they have stored or are issued. None of what they publish, fetch or announce tells the one
from the other, nor do the texts that show their credentials and logins. -/
theorem password_confined {ω ω' : Type} {answer : Surroundings World ω}
    {answer' : Surroundings World ω'} {W : ω → ω' → Prop}
    (h : Surroundings.Indifferent WorldCall.Agree Agrees W answer answer') {w : ω} {w' : ω'}
    (hw : W w w') (config : CycleConfig) :
    Abreast WorldCall.Agree Agrees Eq answer w (load config >>= run config)
      answer' w' (load config >>= run config) ∧
    (∀ cycle cycle' : Cycle, cycle.Agree cycle' →
      Abreast WorldCall.Agree Agrees Eq answer w (run config cycle)
        answer' w' (run config cycle')) ∧
    (∀ trace trace', List.Forall₂ Agrees trace trace' →
      List.Forall₂ WorldCall.Agree (trace.map Exchange.call) (trace'.map Exchange.call) ∧
        deeds trace = deeds trace' ∧ states trace = states trace') ∧
    (∀ c c' : Credentials, c.Agree c' → c.shown = c'.shown ∧
      (Login.ofCredentials c).shown = (Login.ofCredentials c').shown) ∧
    ∀ login login' : Login, login.Agree login' → login.shown = login'.shown := by
  refine ⟨?_, ?_, ?_, ?_, ?_⟩
  · exact (parallel_bind load_alike fun _ _ hcycle => run_alike hcycle).abreast h hw
  · intro cycle cycle' hcycle
    exact (run_alike hcycle).abreast h hw
  · intro trace trace' htrace
    exact views_of_agrees htrace
  · intro c c' hc
    exact ⟨hc.shown, hc.login.shown⟩
  · intro login login' hlogin
    exact hlogin.shown

/-- Surroundings in which everything goes well: the device is issued these credentials, and is told
to fetch an image. -/
def obliging (c : Credentials) : Surroundings World Unit := fun call _ =>
  match call with
  | .now => (some (0 : Nat), ())
  | .pause _ => (some (), ())
  | .connect _ => (some (.ok 0), ())
  | .subscribe .. => (some (.ok ()), ())
  | .unsubscribe .. => (some (.ok ()), ())
  | .publish .. => (some (.ok ()), ())
  | .receive _ =>
    (some (.ok ⟨Topic.update c.deviceId, (UpdateTrigger.document "image").bytes⟩), ())
  | .receiveBy .. =>
    (some (.ok (some ⟨Topic.register, (RegistrationReply.document c).bytes⟩)), ())
  | .close _ => (some (), ())
  | .start _ => (some (), ())
  | .turn (.fetch _) _ => (some (.over (.ok ⟨"/staged", 7, "digest"⟩)), ())
  | .turn (.wait _) _ => (some (.over ()), ())
  | .load => (some (.ok none), ())
  | .store _ => (some (.ok ()), ())
  | .announce _ => (some (), ())

theorem obliging_indifferent {c c' : Credentials} (h : c.Agree c') :
    Surroundings.Indifferent WorldCall.Agree Agrees Eq (obliging c) (obliging c') := by
  refine ⟨?_, fun _ _ _ _ _ _ => rfl⟩
  intro call call' _ _ hcall _
  cases hcall with
  -- Nothing that is answered depends on the login, or on what is stored.
  | connect hlogin => exact .some (.connect hlogin _)
  | store hc => exact .some (.store hc _)
  | same =>
    cases call with
    | receive link =>
      simp only [obliging, h.deviceId]
      exact .some (.same _)
    | receiveBy link deadline =>
      -- The replies issue credentials with different passwords.
      have hoffer (c : Credentials) : Registration.offer?
          ⟨Topic.register, (RegistrationReply.document c).bytes⟩ = some c :=
        Registration.offer?_eq_some_iff.mpr
          ⟨rfl, RegistrationReply.decode_eq_ok_iff.mpr (RegistrationReply.accepts_document c)⟩
      exact .some (.heard rfl rfl (.offer (hoffer c) (hoffer c') h))
    | turn task listening => cases task <;> exact .some (.same _)
    | _ => exact .some (.same _)

/-- What a device is issued, with another password. -/
def issuedOtherwise : Credentials :=
  { Registration.issued with password := "\"success\":false" }

theorem password_confined_rehearsed :
    Registration.issued.password ≠ issuedOtherwise.password ∧
    Surroundings.Indifferent WorldCall.Agree Agrees Eq (obliging Registration.issued)
      (obliging issuedOtherwise) ∧
    ∃ trace trace' cycle, Runs (load rehearsalConfig >>= run rehearsalConfig) trace
        (.updated ⟨"/staged", 7, "digest"⟩, cycle) ∧
      Runs (load rehearsalConfig >>= run rehearsalConfig) trace'
        (.updated ⟨"/staged", 7, "digest"⟩, cycle) ∧
      Answered (obliging Registration.issued) () trace () ∧
      Answered (obliging issuedOtherwise) () trace' () ∧ List.Forall₂ Agrees trace trace' := by
  have hend : ((load rehearsalConfig >>= run rehearsalConfig).run
      (obliging Registration.issued).recorded 4 ((), [])).1.map (·.1) =
        some (.updated ⟨"/staged", 7, "digest"⟩) := by
    decide +kernel
  obtain ⟨⟨_, cycle⟩, hrun, rfl⟩ := Option.map_eq_some_iff.mp hend
  obtain ⟨trace, ⟨⟩, hruns, hanswered⟩ : ∃ trace w,
      Runs (load rehearsalConfig >>= run rehearsalConfig) trace
        (.updated ⟨"/staged", 7, "digest"⟩, cycle) ∧
      Answered (obliging Registration.issued) () trace w :=
    ⟨_, _, runs_of_run hrun⟩
  have hindifferent := obliging_indifferent
    (show Registration.issued.Agree issuedOtherwise from ⟨rfl, rfl, rfl⟩)
  have habreast := (password_confined hindifferent (Eq.refl ()) rehearsalConfig).1
  obtain ⟨trace', o', _, hcomes', hanswered', hlength⟩ :=
    habreast.left (o := .result _) hruns hanswered
  obtain ⟨htrace, ho⟩ := habreast.level (o := .result _) hruns hanswered hcomes' hanswered' hlength
  cases ho with
  | result heq =>
    obtain rfl := heq
    refine ⟨?_, hindifferent, trace, trace', cycle, hruns, hcomes', hanswered, hanswered', htrace⟩
    decide

end Cycle

end UpdateAgent
