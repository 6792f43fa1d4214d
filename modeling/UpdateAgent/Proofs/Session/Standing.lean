import UpdateAgent.Proofs.Machine
import UpdateAgent.Proofs.Monitor
import UpdateAgent.Proofs.Session.Trace

/-!
# Where a device stands

What the calls of a device tell of it (`Standing`): the state of its machine, the credentials that
it has, its open connections, and whether it has logged in with credentials of its own. The rules
for its calls (`discipline`) are said in these terms: there is one connection at a time, which a
device without credentials uses only while it awaits a reply, and a device that has logged in once
does not connect again.
-/

namespace UpdateAgent

open Program

/-- What the calls of a device tell of it. -/
structure Standing where
  /-- The state of its machine. -/
  state : Machine.State := .unregistered
  /-- The credentials that it loaded or stored. -/
  known : Option Credentials := none
  /-- Its open connections, each with the state in which it was opened. -/
  links : List (Link × Machine.State) := []
  /-- Since it booted it has tried to connect as a registered device. -/
  hasLoggedIn : Bool := false

namespace Standing

/-- The device has booted with these credentials. -/
def boot (s : Standing) (known : Option Credentials) : Standing :=
  { s with
    state := if known.isSome then .registered else .unregistered
    known
    hasLoggedIn := false }

/-- The device has tried to connect. -/
def connect (s : Standing) (result : Except BusError Link) : Standing :=
  { s with
    links := match result with
      | .ok link => (link, s.state) :: s.links
      | .error _ => s.links
    hasLoggedIn := s.hasLoggedIn || decide (s.state = .registered) }

theorem connect_of_registered {s : Standing} (h : s.state = .registered)
    (result : Except BusError Link) : (s.connect result).hasLoggedIn = true := by
  simp [connect, h]

theorem connect_of_ne {s : Standing} (h : s.state ≠ .registered) (result : Except BusError Link) :
    s.connect result = { s with links := (s.connect result).links } := by
  simp [connect, h]

/-- Where the device stands after a call. -/
def step (s : Standing) : Exchange World → Standing
  | ⟨.load, .ok known⟩ => s.boot known
  | ⟨.load, .error _⟩ => s.boot none
  | ⟨.connect _, result⟩ => s.connect result
  | ⟨.close link, _⟩ => { s with links := s.links.eraseP (·.1 == link) }
  | ⟨.store c, .ok ()⟩ => { s with known := some c }
  | ⟨.announce state, _⟩ => { s with state }
  | _ => s

theorem step_load (s : Standing) (loaded : Except StoreError (Option Credentials)) :
    s.step ⟨.load, loaded⟩ = s.boot loaded.toOption.join := by
  cases loaded <;> rfl

/-- The connection is the one that is open. If it was opened to wait for a reply, a reply is still
awaited; otherwise it was opened by a registered device. -/
def Holds (s : Standing) (link : Link) : Prop :=
  (s.links = [(link, .awaitingReply)] ∧ s.state = .awaitingReply) ∨
    s.links = [(link, .registered)]

/-- The device may log in so: to wait for a reply, with a login that is shared, or once with its own
credentials when it is registered. -/
def MayLogIn (shared : Login → Prop) (s : Standing) (login : Login) : Prop :=
  (s.state = .awaitingReply ∧ s.known = none ∧ shared login) ∨
    (s.state = .registered ∧ s.hasLoggedIn = false ∧
      ∃ c, s.known = some c ∧ login = .ofCredentials c)

/-- The calls that a device may make. It boots again only if `mayBoot`. -/
def Allows (shared : Login → Prop) (mayBoot : Prop) (s : Standing) : WorldCall → Prop
  | .load => mayBoot ∧ s.links = []
  | .connect login => s.links = [] ∧ s.MayLogIn shared login
  | .publish link topic _ => s.Holds link ∧ (topic = Topic.register → s.known = none)
  | .subscribe link _ | .unsubscribe link _ | .receive link | .receiveBy link _ | .close link
  | .turn _ (some link) => s.Holds link
  | .store _ => s.state = .awaitingReply ∧ s.known = none
  | .now | .pause _ | .start _ | .turn _ none | .announce _ => True

end Standing

/-- The rules for a device that registers over one of the logins `shared`. -/
def discipline (shared : Login → Prop) (mayBoot : Prop) : Monitor World Standing where
  step := Standing.step
  Allows := Standing.Allows shared mayBoot

/-- That a machine moved is all that its announcement tells. -/
theorem Standing.after_announcement {shared : Login → Prop} {mayBoot : Prop} {s : Standing}
    {m : Machine} (hstate : s.state = m.state) (event : Machine.Event) :
    (discipline shared mayBoot).after s (m.handle event).1.announcement =
      { s with state := (m.handle event).2.state } := by
  cases hnext : m.state.next? m.budget event with
  | none =>
    rw [Machine.handle_of_none hnext, ← hstate]
    rfl
  | some target =>
    rw [Machine.handle_of_next hnext]
    rfl

/-- Where the device stands after some calls. -/
def Standing.after (s : Standing) (trace : List (Exchange World)) : Standing :=
  trace.foldl Standing.step s

@[simp]
theorem Standing.after_append (s : Standing) (trace trace' : List (Exchange World)) :
    s.after (trace ++ trace') = (s.after trace).after trace' :=
  List.foldl_append

@[simp]
theorem Standing.after_cons (s : Standing) (e : Exchange World) (trace : List (Exchange World)) :
    s.after (e :: trace) = (s.step e).after trace :=
  rfl

@[simp]
theorem Standing.after_singleton (s : Standing) (e : Exchange World) : s.after [e] = s.step e :=
  rfl

/-- The device is between two sessions: no connection is open, and it has credentials if its machine
counts as registered. -/
structure Standing.Idle (m : Machine) (s : Standing) : Prop where
  state : s.state = m.state
  links : s.links = []
  isSome_known : s.known.isSome = m.state.isRegistered
  hasLoggedIn : s.known = none → s.hasLoggedIn = false

/-! ## What the rules come to -/

/-- The connection that a call is made on. -/
def WorldCall.link? : WorldCall → Option Link
  | subscribe link _ | unsubscribe link _ | publish link _ _ | receive link | receiveBy link _
  | close link => some link
  | turn _ listening => listening
  | _ => none

namespace Standing

open Trace

variable {shared : Login → Prop} {mayBoot : Prop} {s : Standing} {trace : List (Exchange World)}

theorem Allows.holds {c : WorldCall} (h : s.Allows shared mayBoot c) {link : Link}
    (hlink : c.link? = some link) : s.Holds link := by
  match c with
  | .publish .. =>
    cases hlink
    exact h.1
  | .subscribe .. | .unsubscribe .. | .receive _ | .receiveBy .. | .close _
  | .turn _ (some _) =>
    cases hlink
    exact h

/-- All that a call can change. -/
theorem step_cases (s : Standing) (e : Exchange World) :
    (∃ loaded, e = ⟨.load, loaded⟩ ∧ s.step e = s.boot loaded.toOption.join) ∨
      (∃ login result, e = ⟨.connect login, result⟩ ∧ s.step e = s.connect result) ∨
      (∃ link, e = ⟨.close link, ()⟩ ∧
        s.step e = { s with links := s.links.eraseP (·.1 == link) }) ∨
      (∃ c, e = ⟨.store c, .ok ()⟩ ∧ s.step e = { s with known := some c }) ∨
      (∃ state, e = ⟨.announce state, ()⟩ ∧ s.step e = { s with state }) ∨
      ((∀ c, e ≠ ⟨.store c, .ok ()⟩) ∧ s.step e = s) := by
  obtain ⟨c, r⟩ := e
  cases c with
  | load => exact .inl ⟨r, rfl, s.step_load r⟩
  | connect login => exact .inr (.inl ⟨login, r, rfl, rfl⟩)
  | close link => exact .inr (.inr (.inl ⟨link, rfl, rfl⟩))
  | store c =>
    cases r with
    | ok => exact .inr (.inr (.inr (.inl ⟨c, rfl, rfl⟩)))
    | error error => exact .inr (.inr (.inr (.inr (.inr ⟨nofun, rfl⟩))))
  | announce state => exact .inr (.inr (.inr (.inr (.inl ⟨state, rfl, rfl⟩))))
  | _ => exact .inr (.inr (.inr (.inr (.inr ⟨nofun, rfl⟩))))

/-- There is never more than one open connection. -/
theorem length_links_step {e : Exchange World} (h : s.links.length ≤ 1)
    (hallows : s.Allows shared mayBoot e.call) : (s.step e).links.length ≤ 1 := by
  rcases s.step_cases e with ⟨_, -, hstep⟩ | ⟨login, result, rfl, hstep⟩ | ⟨link, -, hstep⟩ |
    ⟨c, -, hstep⟩ | ⟨state, -, hstep⟩ | ⟨-, hstep⟩ <;> rw [hstep]
  · exact h
  · cases result with
    | error error => exact h
    | ok link =>
      show ((link, s.state) :: s.links).length ≤ 1
      rw [hallows.1]
      exact Nat.le_refl 1
  · exact Nat.le_trans List.length_eraseP_le h
  · exact h
  · exact h
  · exact h

/-- The credentials of a device change only when it boots or stores some. -/
theorem known_cases (s : Standing) (e : Exchange World) :
    (∃ loaded, e = ⟨.load, loaded⟩ ∧ (s.step e).known = loaded.toOption.join) ∨
      (∃ c, e = ⟨.store c, .ok ()⟩ ∧ (s.step e).known = some c) ∨
      ((∀ c, e ≠ ⟨.store c, .ok ()⟩) ∧ (s.step e).known = s.known) := by
  rcases s.step_cases e with ⟨loaded, rfl, hstep⟩ | ⟨login, result, rfl, hstep⟩ |
    ⟨link, rfl, hstep⟩ | ⟨c, rfl, hstep⟩ | ⟨state, rfl, hstep⟩ | ⟨hne, hstep⟩ <;> rw [hstep]
  · exact .inl ⟨loaded, rfl, rfl⟩
  · refine .inr (.inr ⟨?_, rfl⟩)
    rintro c ⟨⟩
  · refine .inr (.inr ⟨?_, rfl⟩)
    rintro c ⟨⟩
  · exact .inr (.inl ⟨c, rfl, rfl⟩)
  · refine .inr (.inr ⟨?_, rfl⟩)
    rintro c ⟨⟩
  · exact .inr (.inr ⟨hne, rfl⟩)

/-- A device that has credentials keeps them, unless other ones are found at a boot. -/
theorem known_step {c : Credentials} {e : Exchange World} (h : s.known = some c)
    (hload : ∀ loaded, e = ⟨.load, loaded⟩ → loaded = .ok (some c))
    (hallows : s.Allows shared mayBoot e.call) : (s.step e).known = some c := by
  rcases s.known_cases e with ⟨loaded, rfl, hstep⟩ | ⟨c', rfl, -⟩ | ⟨-, hstep⟩
  · rw [hstep, hload loaded rfl]
    rfl
  · cases h.symm.trans hallows.2
  · rw [hstep, h]

/-- A device that has logged in with its credentials has done so until it boots again. -/
theorem hasLoggedIn_step {e : Exchange World}
    (h : s.known.isSome = true ∧ s.hasLoggedIn = true) (hallows : s.Allows shared False e.call) :
    (s.step e).known.isSome = true ∧ (s.step e).hasLoggedIn = true := by
  rcases s.step_cases e with ⟨loaded, rfl, hstep⟩ | ⟨login, result, -, hstep⟩ |
    ⟨link, -, hstep⟩ | ⟨c', -, hstep⟩ | ⟨state, -, hstep⟩ | ⟨-, hstep⟩ <;> rw [hstep]
  · exact hallows.1.elim
  · exact ⟨h.1, by simp [connect, h.2]⟩
  · exact h
  · exact ⟨rfl, h.2⟩
  · exact h
  · exact h

/-- It does not connect again. -/
theorem no_connect {e : Exchange World} (h : (discipline shared False).Lawful s trace)
    (hs : s.known.isSome = true ∧ s.hasLoggedIn = true) (he : e ∈ trace) (login : Login) :
    e.call ≠ .connect login := by
  obtain ⟨s', ⟨hknown, hloggedIn⟩, hallows⟩ :=
    h.exists_of_mem hs (fun _ _ _ => hasLoggedIn_step) he
  intro hcall
  rw [hcall] at hallows
  rcases hallows.2 with ⟨-, hnone, -⟩ | ⟨-, hfresh, -⟩
  · rw [hnone] at hknown
    cases hknown
  · rw [hfresh] at hloggedIn
    cases hloggedIn

/-- What a device does when it has the credentials `c`: it finds them when it boots; it logs in with
them only, when it is registered; it does not ask to be registered, and stores nothing. -/
def Provisioned (c : Credentials) (s : Standing) : Exchange World → Prop
  | ⟨.load, loaded⟩ => loaded = .ok (some c)
  | ⟨.connect login, _⟩ => s.state = .registered ∧ login = .ofCredentials c
  | ⟨.publish _ topic _, _⟩ => topic ≠ Topic.register
  | ⟨.store _, _⟩ => False
  | _ => True

theorem provisioned_of_known {c : Credentials} {e : Exchange World} (h : s.known = some c)
    (hload : ∀ loaded, e = ⟨.load, loaded⟩ → loaded = .ok (some c))
    (hallows : s.Allows shared mayBoot e.call) : s.Provisioned c e := by
  obtain ⟨call, r⟩ := e
  cases call with
  | load => exact hload r rfl
  | connect login =>
    rcases hallows.2 with ⟨-, hnone, -⟩ | ⟨hstate, -, c', hc', hlogin⟩
    · cases h.symm.trans hnone
    · cases h.symm.trans hc'
      exact ⟨hstate, hlogin⟩
  | publish link topic payload =>
    intro htopic
    cases h.symm.trans (hallows.2 htopic)
  | store c' => cases h.symm.trans hallows.2
  | _ => trivial

/-- It has them from then on, as long as it finds them at every boot. -/
theorem known_after {c : Credentials} (h : (discipline shared mayBoot).Lawful s trace)
    (hknown : s.known = some c)
    (hloads : ∀ loaded, ⟨.load, loaded⟩ ∈ trace → loaded = .ok (some c)) :
    (s.after trace).known = some c := by
  refine h.keeps (P := fun s => s.known = some c) hknown fun s' e he hs' hallows => ?_
  refine known_step hs' ?_ hallows
  rintro loaded rfl
  exact hloads loaded he

end Standing

end UpdateAgent
