import UpdateAgent.Proofs.Session.Standing
import UpdateAgent.Session.Cycle

/-!
# Sessions keep to the rules
-/

namespace UpdateAgent

open Program

section

variable {shared : Login → Prop} {mayBoot : Prop} {m : Machine} {s : Standing}

namespace Update

variable {deviceId url : String} {config : Config} {c : Credentials} {link : Link}

/-- A registered device has an open connection, over which it has logged in with its credentials. -/
structure Online (c : Credentials) (link : Link) (m : Machine) (s : Standing) : Prop where
  state : s.state = m.state
  known : s.known = some c
  links : s.links = [(link, .registered)]
  hasLoggedIn : s.hasLoggedIn = true
  isRegistered : m.state.isRegistered

theorem Online.holds (h : Online c link m s) : s.Holds link :=
  .inr h.links

/-- It stays so whatever happens to the machine. -/
theorem Online.tell (h : Online c link m s) (event : Machine.Event) :
    Online c link (m.handle event).2
      ((discipline shared mayBoot).after s (m.handle event).1.announcement) := by
  rw [Standing.after_announcement h.state]
  exact { h with state := rfl, isRegistered := Machine.isRegistered_handle h.isRegistered event }

/-- The session has no other connection, and keeps the one that it has. -/
abbrev StaysOnline {α : Type} (shared : Login → Prop) (mayBoot : Prop) (c : Credentials)
    (link : Link) (x : Session α) : Prop :=
  ∀ m s, Online c link m s → Session.Obeys (discipline shared mayBoot) m s x fun _ => Online c link

theorem report_stays (report : StatusReport) :
    StaysOnline shared mayBoot c link (liftM (Update.report deviceId link report)) := by
  intro m s h
  refine Session.obeys_lift (Monitor.obeys_discard ?_)
  refine Monitor.obeys_request ⟨h.holds, fun htopic => ?_⟩ fun _ _ => h
  exact absurd htopic (Topic.status_ne_register deviceId)

theorem handle_stays (event : Machine.Event) :
    StaysOnline shared mayBoot c link (Session.handle event) := by
  intro m s h
  exact Session.obeys_handle (fun _ _ _ => trivial) fun _ => h.tell event

theorem tell_stays (event : Machine.Event) :
    StaysOnline shared mayBoot c link (discard (Session.handle event)) :=
  fun m s h => Session.obeys_discard (handle_stays event m s h)

theorem drainTurn_stays (task : Task) (isAlive : Bool) :
    StaysOnline shared mayBoot c link (drainTurn deviceId link task isAlive) := by
  intro m s h
  refine Session.obeys_request_bind ?_ fun r _ => ?_
  · cases isAlive with
    | false => trivial
    | true => exact h.holds
  · match r with
    | .over result => exact Session.obeys_pure h
    | .lost error => exact Session.obeys_pure h
    | .heard message =>
      show Session.Obeys _ m s _ _
      dsimp only
      split
      · split
        · refine Session.obeys_bind (tell_stays _ m s h) fun _ m' s' h' => ?_
          exact Session.obeys_pure h'
        · exact Session.obeys_pure h
      · exact Session.obeys_pure h

theorem drain_stays (task : Task) (isAlive : Bool) :
    StaysOnline shared mayBoot c link (drain deviceId link isAlive task) := by
  intro m s h
  refine Session.obeys_request_bind trivial fun _ _ => ?_
  refine Session.obeys_iterate (fun _ => Online c link) h fun isAlive m s h => ?_
  refine (drainTurn_stays task isAlive m s h).mono fun n m' s' h' => ?_
  cases n <;> exact h'

theorem superviseTurn_stays (isAlive : Bool) :
    StaysOnline shared mayBoot c link (superviseTurn deviceId config link url isAlive) := by
  intro m s h
  refine Session.obeys_get_bind (Session.obeys_bind (drain_stays _ _ m s h) ?_)
  rintro ⟨result, alive⟩ m₁ s₁ h₁
  cases result with
  | ok image =>
    refine Session.obeys_bind (tell_stays _ m₁ s₁ h₁) fun _ m₂ s₂ h₂ => ?_
    refine Session.obeys_bind (report_stays _ m₂ s₂ h₂) fun _ m₃ s₃ h₃ => ?_
    refine Session.obeys_bind (report_stays _ m₃ s₃ h₃) fun _ m₄ s₄ h₄ => ?_
    exact Session.obeys_pure h₄
  | error error =>
    refine Session.obeys_bind (tell_stays _ m₁ s₁ h₁) fun _ m₂ s₂ h₂ => ?_
    refine Session.obeys_get_bind ?_
    split
    · refine Session.obeys_bind (report_stays _ m₂ s₂ h₂) fun _ m₃ s₃ h₃ => ?_
      exact Session.obeys_pure h₃
    · refine Session.obeys_bind (drain_stays _ _ m₂ s₂ h₂) fun _ m₃ s₃ h₃ => ?_
      exact Session.obeys_pure h₃

theorem supervise_stays :
    StaysOnline shared mayBoot c link (supervise deviceId config link url) := by
  intro m s h
  refine Session.obeys_iterate (fun _ => Online c link) h fun isAlive m s h => ?_
  refine (superviseTurn_stays isAlive m s h).mono fun n m' s' h' => ?_
  cases n <;> exact h'

theorem takeMessage_stays (message : Message) :
    StaysOnline shared mayBoot c link (takeMessage deviceId config link message) := by
  intro m s h
  rw [takeMessage]
  split
  · exact Session.obeys_pure h
  · split
    · exact Session.obeys_pure h
    · refine Session.obeys_bind (handle_stays _ m s h) fun t m₁ s₁ h₁ => ?_
      split
      · exact Session.obeys_pure h₁
      · refine Session.obeys_bind (report_stays _ m₁ s₁ h₁) fun _ m₂ s₂ h₂ => ?_
        refine Session.obeys_bind (supervise_stays m₂ s₂ h₂) fun _ m₃ s₃ h₃ => ?_
        exact Session.obeys_pure h₃

theorem serveTurn_stays :
    StaysOnline shared mayBoot c link (serveTurn deviceId config link) := by
  intro m s h
  refine Session.obeys_request_bind h.holds fun r _ => ?_
  cases r with
  | error error => exact Session.obeys_pure h
  | ok message =>
    refine Session.obeys_bind (takeMessage_stays message m s h) fun taken m₁ s₁ h₁ => ?_
    cases taken <;> exact Session.obeys_pure h₁

theorem serve_stays :
    StaysOnline shared mayBoot c link (serve deviceId config link) := by
  intro m s h
  refine Session.obeys_request_bind h.holds fun r _ => ?_
  cases r with
  | error error => exact Session.obeys_pure h
  | ok =>
    refine Session.obeys_request_bind h.holds fun r _ => ?_
    cases r with
    | error error => exact Session.obeys_pure h
    | ok =>
      refine Session.obeys_bind (tell_stays _ m s h) fun _ m₁ s₁ h₁ => ?_
      refine Session.obeys_iterate (fun _ => Online c link) h₁ fun _ m s h => ?_
      refine (serveTurn_stays m s h).mono fun n m' s' h' => ?_
      cases n <;> exact h'

/-- The connection is given up at the end. -/
theorem Online.close (h : Online c link m s) :
    Standing.Idle m ((discipline shared mayBoot).step s ⟨.close link, ()⟩) := by
  refine ⟨h.state, ?_, ?_, fun hnone => ?_⟩
  · show s.links.eraseP (·.1 == link) = []
    simp [h.links]
  · show s.known.isSome = m.state.isRegistered
    rw [h.known, h.isRegistered]
    rfl
  · cases h.known.symm.trans hnone

/-- A registered device that logs in is online from then on. -/
theorem online_connect (h : s.Idle m) (hstate : m.state = .registered) (hknown : s.known = some c) :
    Online c link m (s.connect (.ok link)) := by
  refine ⟨h.state, hknown, ?_, ?_, by rw [hstate]; rfl⟩
  · show (link, s.state) :: s.links = _
    rw [h.state, h.links, hstate]
  · exact Standing.connect_of_registered (h.state.trans hstate) _

/-- Whatever comes of it, a session leaves no connection open. -/
theorem run_obeys (h : s.Idle m) (hknown : s.known = some c) (hfresh : s.hasLoggedIn = false) :
    Session.Obeys (discipline shared mayBoot) m s (run c config) fun _ m' s' => s'.Idle m' := by
  refine Session.obeys_get_bind ?_
  split
  · exact Session.obeys_pure h
  · rename_i hstate
    rw [not_not] at hstate
    split
    · exact Session.obeys_pure h
    · refine Session.obeys_request_bind ?_ fun r _ => ?_
      · exact ⟨h.links, .inr ⟨h.state.trans hstate, hfresh, c, hknown, rfl⟩⟩
      · cases r with
        | error error =>
          refine Session.obeys_pure ⟨h.state, h.links, h.isSome_known, fun hnone => ?_⟩
          cases hknown.symm.trans hnone
        | ok link =>
          refine Session.obeys_bind (serve_stays m _ (online_connect h hstate hknown)) ?_
          intro result m₁ s₁ h₁
          refine Session.obeys_request_bind h₁.holds fun _ _ => ?_
          exact Session.obeys_pure h₁.close

end Update

namespace Registration

variable {identity : DeviceIdentity} {config : Config} {link : Link}

/-- A device without credentials awaits a reply over the open connections. -/
structure Awaiting (links : List Link) (s : Standing) : Prop where
  state : s.state = .awaitingReply
  known : s.known = none
  links : s.links = links.map (·, .awaitingReply)

theorem Awaiting.holds (h : Awaiting [link] s) : s.Holds link :=
  .inl ⟨h.links, h.state⟩

/-- It still knows nothing. -/
theorem Awaiting.eq_none {links : List Link} (h : Awaiting links s) :
    s = { s with known := none } := by
  rw [← h.known]

theorem acceptReply_obeys {links : List Link} (h : Awaiting links s) (state : Machine.State)
    (payload : Bytes) :
    (discipline shared mayBoot).Obeys s (acceptReply state payload) fun r s' =>
      s' = { s with known := r.toOption.join } := by
  rw [acceptReply]
  split
  · exact Monitor.obeys_pure h.eq_none
  · split
    · exact Monitor.obeys_pure h.eq_none
    · refine Monitor.obeys_request_bind ⟨h.state, h.known⟩ fun stored _ => ?_
      cases stored with
      | error error => exact Monitor.obeys_pure h.eq_none
      | ok => exact Monitor.obeys_pure rfl

theorem replyTurn_obeys (h : Awaiting [link] s) (state : Machine.State) (deadline : Nat) :
    (discipline shared mayBoot).Obeys s (replyTurn state link deadline) fun
      | .again _ => fun s' => s' = s
      | .finish result => fun s' => s' = { s with known := result.toOption } := by
  refine Monitor.obeys_request_bind h.holds fun r _ => ?_
  match r with
  | .error error => exact Monitor.obeys_pure h.eq_none
  | .ok none => exact Monitor.obeys_pure h.eq_none
  | .ok (some message) =>
    show Monitor.Obeys _ s _ _
    dsimp only
    split
    · exact Monitor.obeys_pure rfl
    · refine Monitor.obeys_bind (acceptReply_obeys h _ _) ?_
      rintro accepted _ rfl
      match accepted with
      | .error error => exact Monitor.obeys_pure rfl
      | .ok none => exact Monitor.obeys_pure h.eq_none.symm
      | .ok (some credentials) =>
        -- The connection is still open when the subscription is given up.
        have hgiven : (discipline shared mayBoot).Obeys { s with known := some credentials }
            (discard (World.unsubscribe link Topic.register))
            fun _ s' => s' = { s with known := some credentials } :=
          Monitor.obeys_discard (Monitor.obeys_request h.holds fun _ _ => rfl)
        refine Monitor.obeys_bind hgiven ?_
        rintro _ _ rfl
        exact Monitor.obeys_pure rfl

theorem exchange_obeys (h : Awaiting [link] s) (state : Machine.State) :
    (discipline shared mayBoot).Obeys s (exchange identity config state link) fun result s' =>
      s' = { s with known := result.toOption } := by
  refine Monitor.obeys_request_bind h.holds fun subscribed _ => ?_
  cases subscribed with
  | error error => exact Monitor.obeys_pure h.eq_none
  | ok =>
    refine Monitor.obeys_request_bind ⟨h.holds, fun _ => h.known⟩ fun published _ => ?_
    cases published with
    | error error => exact Monitor.obeys_pure h.eq_none
    | ok =>
      refine Monitor.obeys_request_bind trivial fun now _ => ?_
      refine Monitor.obeys_iterate (fun _ s' => s' = s) rfl ?_
      rintro _ _ rfl
      refine (replyTurn_obeys h state _).mono fun n s' hs' => ?_
      cases n <;> exact hs'

/-- An attempt leaves no connection open. -/
theorem attempt_obeys (h : Awaiting [] s) (hshared : shared config.bootstrap)
    (state : Machine.State) :
    (discipline shared mayBoot).Obeys s (attempt identity config state) fun result s' =>
      s' = { s with known := result.toOption } := by
  have hne : s.state ≠ .registered := by
    rw [h.state]
    exact nofun
  refine Monitor.obeys_request_bind ⟨h.links, .inl ⟨h.state, h.known, hshared⟩⟩ fun r _ => ?_
  cases r with
  | error error =>
    exact Monitor.obeys_pure ((Standing.connect_of_ne hne (.error error)).trans h.eq_none)
  | ok link =>
    have hconnect : s.connect (.ok link) = { s with links := [(link, .awaitingReply)] } := by
      simp [Standing.connect, h.state, h.links]
    show Monitor.Obeys _ (s.connect (.ok link)) _ _
    rw [hconnect]
    have hlink : Awaiting [link] { s with links := [(link, .awaitingReply)] } :=
      ⟨h.state, h.known, rfl⟩
    refine Monitor.obeys_bind (exchange_obeys hlink state) ?_
    rintro result _ rfl
    refine Monitor.obeys_request_bind hlink.holds fun _ _ => Monitor.obeys_pure ?_
    simp [discipline, Standing.step, h.links]

/-- After an attempt the device has credentials and counts as registered, or has none and awaits a
reply. -/
theorem tryOnce_obeys (h : s.Idle m) (hstate : m.state.isRegistered = false)
    (hshared : shared config.bootstrap) :
    Session.Obeys (discipline shared mayBoot) m s (tryOnce identity config) fun o m' s' =>
      s'.Idle m' ∧ s'.hasLoggedIn = false ∧ s'.known = o.bind Except.toOption := by
  have hknown : s.known = none := by
    rw [← Option.isNone_iff_eq_none, ← Option.not_isSome, h.isSome_known, hstate]
    rfl
  have hstarted := Machine.handle_registrationStarted (Machine.State.of_not_isRegistered hstate)
  refine Session.obeys_tell_bind (fun _ _ _ => trivial) fun _ => ?_
  rw [Standing.after_announcement h.state]
  -- Whether the machine moved or was awaiting a reply before does not matter from here on.
  generalize (m.handle .registrationStarted).2 = m₁ at hstarted
  have hawaiting : Awaiting [] { s with state := m₁.state } := ⟨hstarted, hknown, h.links⟩
  refine Session.obeys_get_bind ?_
  refine Session.obeys_lift_bind (attempt_obeys hawaiting hshared m₁.state) ?_
  rintro result _ rfl
  have hidle : Standing.Idle m₁ { s with state := m₁.state, known := none } :=
    ⟨rfl, h.links, by rw [hstarted]; rfl, fun _ => h.hasLoggedIn hknown⟩
  match result with
  | .ok c =>
    refine Session.obeys_tell_bind (fun _ _ _ => trivial) fun _ => Session.obeys_pure ?_
    rw [Standing.after_announcement rfl, Machine.handle_registrationAccepted hstarted]
    exact ⟨⟨rfl, h.links, rfl, nofun⟩, h.hasLoggedIn hknown, rfl⟩
  | .error (.storage error) => exact Session.obeys_pure ⟨hidle, h.hasLoggedIn hknown, rfl⟩
  | .error (.bus error) => exact Session.obeys_pure ⟨hidle, h.hasLoggedIn hknown, rfl⟩
  | .error .timeout => exact Session.obeys_pure ⟨hidle, h.hasLoggedIn hknown, rfl⟩

theorem attempts_obeys {more : Nat} (h : s.Idle m) (hstate : m.state.isRegistered = false)
    (hshared : shared config.bootstrap) :
    Session.Obeys (discipline shared mayBoot) m s (attempts identity config more) fun r m' s' =>
      s'.Idle m' ∧ s'.hasLoggedIn = false ∧ s'.known = r.toOption := by
  induction more generalizing m s with
  | zero =>
    refine Session.obeys_bind (tryOnce_obeys h hstate hshared) ?_
    rintro o m₁ s₁ h₁
    cases o <;> exact Session.obeys_pure h₁
  | succ more ih =>
    refine Session.obeys_bind (tryOnce_obeys h hstate hshared) ?_
    rintro o m₁ s₁ ⟨hidle, hfresh, hknown⟩
    cases o with
    | none =>
      refine Session.obeys_request_bind trivial fun _ _ => ih hidle ?_
      rw [← hidle.isSome_known, hknown]
      rfl
    | some result => exact Session.obeys_pure ⟨hidle, hfresh, hknown⟩

/-- A session that brings credentials leaves a device that knows them and has not logged in with
them. -/
theorem run_obeys (h : s.Idle m) (hshared : shared config.bootstrap) :
    Session.Obeys (discipline shared mayBoot) m s (run identity config) fun r m' s' =>
      s'.Idle m' ∧ ∀ c, r = .ok c → s'.known = some c ∧ s'.hasLoggedIn = false := by
  refine Session.obeys_get_bind ?_
  by_cases hstate : m.state.isRegistered
  · split
    · rename_i heq
      rw [heq] at hstate
      cases hstate
    · rename_i heq
      rw [heq] at hstate
      cases hstate
    · exact Session.obeys_pure ⟨h, nofun⟩
  · rw [Bool.not_eq_true] at hstate
    have hattempts : Session.Obeys (discipline shared mayBoot) m s
        (attempts identity config (config.retry.attempts.toNat - 1)) fun r m' s' =>
          s'.Idle m' ∧ ∀ c, r = .ok c → s'.known = some c ∧ s'.hasLoggedIn = false := by
      refine (attempts_obeys h hstate hshared).mono ?_
      rintro r m' s' ⟨hidle, hfresh, hknown⟩
      refine ⟨hidle, ?_⟩
      rintro c rfl
      exact ⟨hknown, hfresh⟩
    rcases Machine.State.of_not_isRegistered hstate with heq | heq <;> rw [heq] <;>
      exact hattempts

end Registration

namespace Cycle

variable {config : CycleConfig} {cycle : Cycle}

/-- The credentials that a cycle starts with are those that the device has, and it has not logged in
with them. -/
structure Ready (cycle : Cycle) (s : Standing) : Prop where
  idle : s.Idle cycle.machine
  known : ∀ c, cycle.credentials = some c → s.known = some c ∧ s.hasLoggedIn = false

theorem obtain_obeys (h : Ready cycle s) (hshared : shared config.registration.bootstrap) :
    Session.Obeys (discipline shared mayBoot) cycle.machine s (obtain config cycle.credentials)
      fun r m' s' => s'.Idle m' ∧ ∀ c, r = .ok c → s'.known = some c ∧ s'.hasLoggedIn = false := by
  rcases hcredentials : cycle.credentials with _ | c
  · exact Registration.run_obeys h.idle hshared
  · refine Session.obeys_pure ⟨h.idle, ?_⟩
    rintro _ ⟨⟩
    exact h.known c hcredentials

theorem provision_obeys (h : Ready cycle s) (hshared : shared config.registration.bootstrap) :
    Session.Obeys (discipline shared mayBoot) cycle.machine s (provision config cycle.credentials)
      fun _ m' s' => s'.Idle m' := by
  refine Session.obeys_bind (obtain_obeys h hshared) ?_
  rintro r m₁ s₁ ⟨hidle, hknown⟩
  cases r with
  | error error => exact Session.obeys_pure hidle
  | ok c =>
    obtain ⟨hknown, hfresh⟩ := hknown c rfl
    refine Session.obeys_bind (Update.run_obeys hidle hknown hfresh) fun result m₂ s₂ hidle => ?_
    match result with
    | .error error => exact Session.obeys_pure hidle
    | .ok (.updated image) => exact Session.obeys_pure hidle
    | .ok (.failed attempts error) => exact Session.obeys_pure hidle

/-- A run leaves a cycle that is ready for another. -/
theorem run_obeys (h : Ready cycle s) (hshared : shared config.registration.bootstrap) :
    (discipline shared mayBoot).Obeys s (run config cycle) fun p s' => Ready p.2 s' := by
  refine Monitor.obeys_bind (provision_obeys h hshared) ?_
  rintro ⟨outcome, machine⟩ s' hidle
  exact Monitor.obeys_pure ⟨hidle, nofun⟩

theorem ready_prepare (hlinks : s.links = []) (credentials : Option Credentials) :
    Ready (prepare config credentials) (s.boot credentials) := by
  cases credentials with
  | none => exact ⟨⟨rfl, hlinks, rfl, fun _ => rfl⟩, nofun⟩
  | some c =>
    refine ⟨⟨rfl, hlinks, rfl, fun _ => rfl⟩, ?_⟩
    rintro _ ⟨⟩
    exact ⟨rfl, rfl⟩

/-- While a cycle runs, no other one is loaded. -/
theorem ne_load {trace : List (Exchange World)} {e : Exchange World} (h : Ready cycle s)
    (hbegan : Began (run config cycle) trace) (he : e ∈ trace) : e.call ≠ .load := by
  have hobeys : (discipline (fun _ => True) False).Obeys s (run config cycle) fun p => Ready p.2 :=
    run_obeys h trivial
  have hlawful := hobeys.lawful hbegan (Monitor.expected_of_forall fun _ _ => trivial)
  obtain ⟨s', -, hallows⟩ :=
    hlawful.exists_of_mem (P := fun _ => True) trivial (fun _ _ _ _ _ => trivial) he
  intro hcall
  rw [hcall] at hallows
  exact hallows.1

/-! ## Loading a cycle -/

/-- A cycle is made from the credentials that were loaded, if there are any. -/
theorem load_bind {β : Type} (config : CycleConfig) (f : Cycle → Program World β) :
    load config >>= f =
      World.load >>= fun loaded => f (prepare config loaded.toOption.join) := by
  rw [load, bind_assoc]
  refine bind_congr fun loaded => ?_
  cases loaded <;> exact pure_bind _ _

theorem runs_load {trace : List (Exchange World)} : Runs (load config) trace cycle ↔
    ∃ loaded, trace = [⟨.load, loaded⟩] ∧ cycle = prepare config loaded.toOption.join := by
  rw [← bind_pure (load config), load_bind, World.load, runs_request_bind]
  refine exists_congr fun loaded => ?_
  simp [and_comm]

/-- The device stands then where the machine of the cycle does. -/
theorem ready_load (hlinks : s.links = []) (loaded : Except StoreError (Option Credentials)) :
    Ready (prepare config loaded.toOption.join) (s.step ⟨.load, loaded⟩) := by
  rw [s.step_load]
  exact ready_prepare hlinks _

/-- A device that may boot is ready for its cycle then. -/
theorem load_obeys (hlinks : s.links = []) :
    (discipline shared True).Obeys s (load config) Ready := by
  rw [← bind_pure (load config), load_bind]
  refine Monitor.obeys_request_bind ⟨trivial, hlinks⟩ fun loaded _ => ?_
  exact Monitor.obeys_pure (ready_load hlinks loaded)

end Cycle

end

end UpdateAgent
