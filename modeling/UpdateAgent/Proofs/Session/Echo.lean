import UpdateAgent.Proofs.Deaf
import UpdateAgent.Proofs.Message.Envelope
import UpdateAgent.Proofs.Session.Registration
import UpdateAgent.Proofs.Session.Update

/-!
# Sessions do not hear themselves

A bus may hand a session its own messages, on whatever topic, and repeatedly. No message of a
session can be read (`Unread`), and wherever a session awaits messages it goes on waiting after one
that cannot be read. So it does what it would have done without its echoes (`echoes_ignored`).
-/

namespace UpdateAgent

open Program Trace

/-! ## Sessions are deaf to what they cannot read -/

/-- A message came in that a device can read nothing from. -/
def HearsUnread (e : Exchange World) : Prop :=
  ∃ message, message? e = some message ∧ Unread message.payload

/-- A device can read nothing from what a call publishes. -/
def PublishesUnread : WorldCall → Prop
  | .publish _ _ payload => Unread payload
  | _ => True

/-- The program publishes nothing that can be read, and what cannot be read leaves it where it
was. -/
abbrev Inattentive {α : Type} (p : Program World α) : Prop :=
  Deaf PublishesUnread HearsUnread p

variable {α β σ : Type} {m : Machine}

/-- A call that brings no message. -/
theorem deaf_quiet {c : WorldCall} (hpublishes : PublishesUnread c)
    (hquiet : ∀ r, message? ⟨c, r⟩ = none) : Inattentive (request World c) := by
  apply deaf_request hpublishes
  rintro r ⟨message, hmessage, -⟩
  rw [hquiet r] at hmessage
  cases hmessage

namespace Session

theorem deaf_bind {x : Session α} {f : α → Session β} (hx : Inattentive (x.run m))
    (hf : ∀ a m', Inattentive ((f a).run m')) : Inattentive ((x >>= f).run m) := by
  rw [StateT.run_bind]
  exact Program.deaf_bind hx fun (a, m') => hf a m'

theorem deaf_lift {p : Program World α} (hp : Inattentive p) :
    Inattentive ((liftM p : Session α).run m) :=
  Program.deaf_bind hp fun _ => deaf_pure _

theorem deaf_get_bind {f : Machine → Session β} (hf : Inattentive ((f m).run m)) :
    Inattentive ((get >>= f).run m) := by
  rw [StateT.run_bind, StateT.run_get, pure_bind]
  exact hf

theorem deaf_handle (event : Machine.Event) : Inattentive ((Session.handle event).run m) := by
  rw [handle_run]
  refine Program.deaf_bind ?_ fun _ => deaf_pure _
  split
  · exact deaf_quiet trivial fun _ => rfl
  · exact deaf_pure ()

/-- An event that a session tells the machine of first. -/
theorem deaf_tell_bind {event : Machine.Event} {f : Unit → Session β}
    (hf : ∀ m', Inattentive ((f ()).run m')) :
    Inattentive ((discard (Session.handle event) >>= f).run m) := by
  refine deaf_bind ?_ fun _ m' => hf m'
  exact Program.deaf_bind (deaf_handle event) fun _ => deaf_pure _

/-- What a session's loop makes of a turn. -/
theorem turn_deaf {body : σ → Session (Next σ β)} {p : σ × Machine}
    (hbody : Inattentive ((body p.1).run p.2)) : Inattentive (turn body p) := by
  refine Program.deaf_bind hbody ?_
  intro (n, m)
  cases n with
  | again s => exact deaf_pure _
  | finish b => exact deaf_pure _

/-- A loop is deaf whose turns begin with a call and go again after what cannot be read. -/
theorem deaf_iterate {body : σ → Session (Next σ β)} {c : σ → WorldCall}
    {f : (s : σ) → WorldReply (c s) → Session (Next σ β)}
    (hbody : ∀ s, body s = liftM (request World (c s)) >>= f s)
    (hpublishes : ∀ s, PublishesUnread (c s))
    (hagain : ∀ s r, HearsUnread ⟨c s, r⟩ → f s r = pure (.again s))
    (hturn : ∀ s r m, Inattentive ((f s r).run m)) (s : σ) :
    Inattentive ((Session.iterate s body).run m) := by
  rw [iterate_run]
  -- The call of a turn comes before what the loop makes of its outcome.
  have hhead : ∀ p : σ × Machine,
      turn body p = request World (c p.1) >>= fun r => turn (fun _ => f p.1 r) p := by
    intro p
    rw [turn, hbody]
    rfl
  refine Program.deaf_iterate hhead (fun p => hpublishes p.1) ?_ ?_ (s, m)
  · intro p r hr
    rw [turn, hagain p.1 r hr]
    rfl
  · intro p r
    exact turn_deaf (hturn p.1 r p.2)

/-- So is one whose turns are deaf themselves, if each begins with a call. -/
theorem deaf_iterate_of_call {body : σ → Session (Next σ β)}
    (hcall : ∀ s m, ∃ c k, (body s).run m = call c k) (hbody : ∀ s m, Inattentive ((body s).run m))
    (s : σ) : Inattentive ((Session.iterate s body).run m) := by
  rw [iterate_run]
  refine Program.deaf_iterate_of_call ?_ (fun p => turn_deaf (hbody p.1 p.2)) (s, m)
  intro p
  obtain ⟨c, k, hhead⟩ := hcall p.1 p.2
  rw [turn, hhead]
  exact ⟨c, _, rfl⟩

end Session

namespace Registration

variable {identity : DeviceIdentity} {config : Config} {state : Machine.State} {link : Link}

/-- A message that cannot be read is not taken. -/
theorem acceptReply_of_unread {payload : Bytes} (h : Unread payload) :
    acceptReply state payload = pure (.ok none) := by
  rw [acceptReply, h.reply]
  exact ite_self _

theorem acceptReply_deaf (payload : Bytes) : Inattentive (acceptReply state payload) := by
  rw [acceptReply]
  split
  · exact deaf_pure _
  split
  · exact deaf_pure _
  · refine deaf_bind (deaf_quiet trivial fun _ => rfl) fun stored => ?_
    cases stored <;> exact deaf_pure _

theorem awaitReply_deaf (deadline : Nat) :
    Inattentive (Program.iterate () fun _ => replyTurn state link deadline) := by
  refine deaf_iterate (fun _ => rfl) (fun _ => trivial) ?_ ?_ ()
  · rintro _ r ⟨message, hmessage, hunread⟩
    match r, hmessage with
    | .ok (some message), hmessage =>
      obtain rfl := Option.some.inj hmessage
      dsimp only
      rw [acceptReply_of_unread hunread, pure_bind]
      exact ite_self _
  · intro _ r
    match r with
    | .error _ => exact deaf_pure _
    | .ok none => exact deaf_pure _
    | .ok (some message) =>
      dsimp only
      split
      · exact deaf_pure _
      refine deaf_bind (acceptReply_deaf _) fun accepted => ?_
      match accepted with
      | .error _ => exact deaf_pure _
      | .ok none => exact deaf_pure _
      | .ok (some _) =>
        refine deaf_bind (deaf_discard (deaf_quiet trivial fun _ => rfl)) fun _ => ?_
        exact deaf_pure _

theorem exchange_deaf : Inattentive (exchange identity config state link) := by
  refine deaf_bind (deaf_quiet trivial fun _ => rfl) fun subscribed => ?_
  cases subscribed with
  | error error => exact deaf_pure _
  | ok =>
    refine deaf_bind (deaf_quiet identity.unread_request fun _ => rfl) fun published => ?_
    cases published with
    | error error => exact deaf_pure _
    | ok => exact deaf_bind (deaf_quiet trivial fun _ => rfl) fun _ => awaitReply_deaf _

theorem attempt_deaf : Inattentive (attempt identity config state) := by
  refine deaf_bind (deaf_quiet trivial fun _ => rfl) fun connected => ?_
  cases connected with
  | error error => exact deaf_pure _
  | ok link =>
    refine deaf_bind exchange_deaf fun _ => ?_
    exact deaf_bind (deaf_quiet trivial fun _ => rfl) fun _ => deaf_pure _

theorem tryOnce_deaf (m : Machine) : Inattentive ((tryOnce identity config).run m) := by
  refine Session.deaf_tell_bind fun m => ?_
  refine Session.deaf_get_bind ?_
  refine Session.deaf_bind (Session.deaf_lift attempt_deaf) fun tried m => ?_
  match tried with
  | .ok c => exact Session.deaf_tell_bind fun _ => deaf_pure _
  | .error (.storage _) => exact deaf_pure _
  | .error (.bus _) => exact deaf_pure _
  | .error .timeout => exact deaf_pure _

theorem attempts_deaf (more : Nat) (m : Machine) :
    Inattentive ((attempts identity config more).run m) := by
  induction more generalizing m with
  | zero =>
    refine Session.deaf_bind (tryOnce_deaf m) fun o _ => ?_
    cases o <;> exact deaf_pure _
  | succ more ih =>
    refine Session.deaf_bind (tryOnce_deaf m) fun o m => ?_
    cases o with
    | some result => exact deaf_pure _
    | none =>
      refine Session.deaf_bind (Session.deaf_lift (deaf_quiet trivial fun _ => rfl)) fun _ m => ?_
      exact ih m

theorem run_deaf (identity : DeviceIdentity) (config : Config) (m : Machine) :
    Inattentive ((run identity config).run m) := by
  refine Session.deaf_get_bind ?_
  split
  · exact attempts_deaf _ m
  · exact attempts_deaf _ m
  · exact deaf_pure _

end Registration

namespace Update

variable {deviceId url : String} {config : Config} {link : Link}

theorem report_deaf (r : StatusReport) : Inattentive (report deviceId link r) :=
  deaf_discard (deaf_quiet r.unread_message fun _ => rfl)

/-- A report that is published before the session goes on. -/
theorem report_bind_deaf {r : StatusReport} {f : Unit → Session β}
    (hf : ∀ m', Inattentive ((f ()).run m')) :
    Inattentive ((liftM (report deviceId link r) >>= f).run m) :=
  Session.deaf_bind (Session.deaf_lift (report_deaf r)) fun _ m' => hf m'

/-- A task brings no message when it starts. -/
theorem start_deaf (task : Task) : Inattentive (World.start task) :=
  deaf_quiet trivial fun _ => rfl

theorem drain_deaf (isAlive : Bool) (task : Task) (m : Machine) :
    Inattentive ((drain deviceId link isAlive task).run m) := by
  refine Session.deaf_bind (Session.deaf_lift (start_deaf task)) fun _ m => ?_
  refine Session.deaf_iterate (c := fun isAlive => .turn task (if isAlive then some link else none))
    (fun _ => rfl) (fun _ => trivial) ?_ ?_ isAlive
  · rintro isAlive r ⟨message, hmessage, hunread⟩
    match r, hmessage with
    | .heard message, hmessage =>
      obtain rfl := Option.some.inj hmessage
      dsimp only
      rw [hunread.trigger]
      exact ite_self _
  · intro isAlive r m
    match r with
    | .over result => exact deaf_pure _
    | .lost error => exact deaf_pure _
    | .heard message =>
      dsimp only
      split
      · split
        · exact Session.deaf_tell_bind fun _ => deaf_pure _
        · exact deaf_pure _
      · exact deaf_pure _

theorem superviseTurn_deaf (isAlive : Bool) (m : Machine) :
    Inattentive ((superviseTurn deviceId config link url isAlive).run m) := by
  refine Session.deaf_get_bind ?_
  refine Session.deaf_bind (drain_deaf _ _ m) fun done m => ?_
  obtain ⟨_ | image, isAlive⟩ := done
  · refine Session.deaf_tell_bind fun m => ?_
    refine Session.deaf_get_bind ?_
    split
    · exact report_bind_deaf fun _ => deaf_pure _
    · exact Session.deaf_bind (drain_deaf _ _ m) fun _ _ => deaf_pure _
  · refine Session.deaf_tell_bind fun m => ?_
    exact report_bind_deaf fun _ => report_bind_deaf fun _ => deaf_pure _

/-- A turn begins with its fetch. -/
theorem superviseTurn_start (isAlive : Bool) (m : Machine) :
    ∃ k, (superviseTurn deviceId config link url isAlive).run m = .call (.start (.fetch url)) k :=
  ⟨_, rfl⟩

theorem supervise_deaf (m : Machine) : Inattentive ((supervise deviceId config link url).run m) :=
  Session.deaf_iterate_of_call (fun isAlive m => ⟨_, superviseTurn_start isAlive m⟩)
    superviseTurn_deaf true

/-- A message that cannot be read is not taken. -/
theorem takeMessage_of_unread {message : Message} (h : Unread message.payload) :
    takeMessage deviceId config link message = pure none := by
  rw [takeMessage, h.trigger]
  exact ite_self _

theorem takeMessage_deaf (message : Message) (m : Machine) :
    Inattentive ((takeMessage deviceId config link message).run m) := by
  rw [takeMessage]
  split
  · exact deaf_pure _
  split
  · exact deaf_pure _
  · refine Session.deaf_bind (Session.deaf_handle _) fun t m => ?_
    split
    · exact deaf_pure _
    · refine report_bind_deaf fun m => ?_
      exact Session.deaf_bind (supervise_deaf m) fun _ _ => deaf_pure _

theorem serve_deaf (m : Machine) : Inattentive ((serve deviceId config link).run m) := by
  refine Session.deaf_bind (Session.deaf_lift (deaf_quiet trivial fun _ => rfl)) fun r m => ?_
  cases r with
  | error error => exact deaf_pure _
  | ok =>
    refine Session.deaf_bind (Session.deaf_lift (deaf_quiet trivial fun _ => rfl)) fun r m => ?_
    cases r with
    | error error => exact deaf_pure _
    | ok =>
      refine Session.deaf_tell_bind fun m => ?_
      refine Session.deaf_iterate (c := fun _ => .receive link) (fun _ => rfl)
        (fun _ => trivial) ?_ ?_ ()
      · rintro _ r ⟨message, hmessage, hunread⟩
        match r, hmessage with
        | .ok message, hmessage =>
          obtain rfl := Option.some.inj hmessage
          dsimp only
          rw [takeMessage_of_unread hunread, pure_bind]
      · intro _ r m
        match r with
        | .error _ => exact deaf_pure _
        | .ok message =>
          refine Session.deaf_bind (takeMessage_deaf message m) fun o m => ?_
          cases o <;> exact deaf_pure _

theorem run_deaf (c : Credentials) (config : Config) (m : Machine) :
    Inattentive ((run c config).run m) := by
  refine Session.deaf_get_bind ?_
  split
  · exact deaf_pure _
  split
  · exact deaf_pure _
  refine Session.deaf_bind (Session.deaf_lift (deaf_quiet trivial fun _ => rfl)) fun r m => ?_
  cases r with
  | error error => exact deaf_pure _
  | ok link =>
    refine Session.deaf_bind (serve_deaf m) fun _ m => ?_
    refine Session.deaf_bind (Session.deaf_lift (deaf_quiet trivial fun _ => rfl)) fun _ m => ?_
    exact deaf_pure _

end Update

/-! ## Echoes -/

/-- What a program may have made of its calls so far, without and with echoes: the reply to a call
may be a message, on any topic, whose payload the program has published. -/
inductive Echoed (p : Program World α) : List (Exchange World) → List (Exchange World) → Prop
  | nil : Echoed p [] []
  | same {trace trace' : List (Exchange World)} (sofar : Echoed p trace trace')
      (e : Exchange World) : Echoed p (trace ++ [e]) (trace' ++ [e])
  | echo {trace trace' : List (Exchange World)} (sofar : Echoed p trace trace')
      {e : Exchange World} (asks : Asks p trace' e.call) {message : Message}
      (hears : message? e = some message) {topic : String}
      (own : .published topic message.payload ∈ deeds trace') : Echoed p trace (trace' ++ [e])

/-- The program cannot tell the one list of calls from the other, nor can anyone who looks at what
it published, fetched and stored and at the states of its machine. -/
structure Unaffected (p : Program World α) (trace trace' : List (Exchange World)) : Prop where
  runs : ∀ a, Runs p trace a ↔ Runs p trace' a
  asks : ∀ c, Asks p trace c ↔ Asks p trace' c
  deeds : deeds trace = deeds trace'
  puts : puts trace = puts trace'
  states : states trace = states trace'

variable {p : Program World α} {trace trace' : List (Exchange World)}

/-- Once there are no more echoes. -/
theorem Echoed.append (h : Echoed p trace trace') (rest : List (Exchange World)) :
    Echoed p (trace ++ rest) (trace' ++ rest) := by
  induction rest generalizing trace trace' with
  | nil => simpa using h
  | cons e rest ih => simpa using ih (h.same e)

/-- One echo, of something that was published before it. -/
theorem echoed_once {before : List (Exchange World)} {e : Exchange World}
    (hasks : Asks p before e.call) {message : Message} (hhears : message? e = some message)
    {topic : String} (hown : .published topic message.payload ∈ deeds before)
    (after : List (Exchange World)) : Echoed p (before ++ after) (before ++ [e] ++ after) := by
  have hbefore : Echoed p before before := Echoed.nil.append before
  exact (hbefore.echo hasks hhears hown).append after

/-- What the program has published cannot be read when it comes back. -/
theorem hearsUnread_of_own (hp : Inattentive p) {e : Exchange World} (hasks : Asks p trace e.call)
    {message : Message} (hhears : message? e = some message) {topic : String}
    (hown : .published topic message.payload ∈ deeds trace) : HearsUnread e := by
  obtain ⟨link, r, hmem⟩ := publish_mem hown
  obtain ⟨before, after, rfl⟩ := List.append_of_mem hmem
  exact ⟨message, hhears, hp.makes (hasks.asks rfl)⟩

/-- Whatever comes after some echoes comes without them as well. -/
theorem Echoed.follows (hp : Inattentive p) (h : Echoed p trace trace') :
    (∀ rest a, Runs p (trace ++ rest) a ↔ Runs p (trace' ++ rest) a) ∧
      ∀ rest c, Asks p (trace ++ rest) c ↔ Asks p (trace' ++ rest) c := by
  induction h with
  | nil => exact ⟨fun _ _ => Iff.rfl, fun _ _ => Iff.rfl⟩
  | same sofar e ih =>
    simp only [List.append_assoc]
    exact ⟨fun rest => ih.1 ([e] ++ rest), fun rest => ih.2 ([e] ++ rest)⟩
  | @echo trace trace' sofar e asks message hears topic own ih =>
    -- The last echo is left out first, where it comes behind all the others.
    obtain ⟨hruns, hasks⟩ := hp.vain asks (hearsUnread_of_own hp asks hears own)
    simp only [List.append_assoc, List.singleton_append]
    constructor
    · intro rest a
      rw [hruns]
      exact ih.1 rest a
    · intro rest c
      rw [hasks]
      exact ih.2 rest c

/-- The views of the calls show no echoes. -/
theorem Echoed.views (h : Echoed p trace trace') : deeds trace = deeds trace' ∧
    puts trace = puts trace' ∧ states trace = states trace' := by
  induction h with
  | nil => exact ⟨rfl, rfl, rfl⟩
  | same sofar e ih =>
    obtain ⟨hdeeds, hputs, hstates⟩ := ih
    rw [deeds_append, puts_append, states_append, hdeeds, hputs, hstates, deeds_append,
      puts_append, states_append]
    exact ⟨rfl, rfl, rfl⟩
  | @echo trace trace' sofar e asks message hears topic own ih =>
    obtain ⟨hdeed, hput, hstate⟩ := views_of_message hears
    have hdeeds : deeds [e] = [] := List.filterMap_cons_none hdeed
    have hputs : puts [e] = [] := List.filterMap_cons_none hput
    have hstates : states [e] = [] := List.filterMap_cons_none hstate
    rw [deeds_append, puts_append, states_append, hdeeds, hputs, hstates, List.append_nil,
      List.append_nil, List.append_nil]
    exact ih

theorem Echoed.unaffected (h : Echoed p trace trace') (hp : Inattentive p) :
    Unaffected p trace trace' := by
  obtain ⟨hruns, hasks⟩ := h.follows hp
  obtain ⟨hdeeds, hputs, hstates⟩ := h.views
  refine ⟨?_, ?_, hdeeds, hputs, hstates⟩
  · simpa using hruns []
  · simpa using hasks []

/-- A device can read nothing from its own messages, whatever texts they carry, and the topics of
all devices are told apart. So echoes have no effect on either session. -/
theorem echoes_ignored :
    (∀ identity : DeviceIdentity, Unread identity.request.bytes) ∧
    (∀ report : StatusReport, Unread report.message.bytes) ∧
    (∀ deviceId deviceId', Topic.update deviceId ≠ Topic.status deviceId') ∧
    (∀ deviceId, Topic.update deviceId ≠ Topic.register) ∧
    (∀ deviceId, Topic.status deviceId ≠ Topic.register) ∧
    Function.Injective Topic.update ∧ Function.Injective Topic.status ∧
    (∀ identity config m trace trace',
      Echoed ((Registration.run identity config).run m) trace trace' →
        Unaffected ((Registration.run identity config).run m) trace trace') ∧
    ∀ c config m trace trace',
      Echoed ((Update.run c config).run m) trace trace' →
        Unaffected ((Update.run c config).run m) trace trace' := by
  refine ⟨DeviceIdentity.unread_request, StatusReport.unread_message, Topic.update_ne_status,
    Topic.update_ne_register, Topic.status_ne_register, Topic.update_injective,
    Topic.status_injective, ?_, ?_⟩
  · intro identity config m trace trace' h
    exact h.unaffected (Registration.run_deaf identity config m)
  · intro c config m trace trace' h
    exact h.unaffected (Update.run_deaf c config m)

/-- A device has published its request. -/
def Registration.requested : List (Exchange World) :=
  [⟨.announce .awaitingReply, ()⟩, ⟨.connect rehearsalConfig.bootstrap, .ok 0⟩,
    ⟨.subscribe 0 Topic.register, .ok ()⟩,
    ⟨.publish 0 Topic.register rehearsalIdentity.request.bytes, .ok ()⟩, ⟨.now, (0 : Nat)⟩]

/-- It hears its own request. -/
def Registration.echo : Exchange World :=
  ⟨.receiveBy 0 10, .ok (some ⟨Topic.register, rehearsalIdentity.request.bytes⟩)⟩

/-- It hears the reply. -/
def Registration.reply : Exchange World :=
  ⟨.receiveBy 0 10, .ok (some ⟨Topic.register, (RegistrationReply.document issued).bytes⟩)⟩

/-- It takes the reply. -/
def Registration.settled : List (Exchange World) :=
  [⟨.store issued, .ok ()⟩, ⟨.unsubscribe 0 Topic.register, .ok ()⟩, ⟨.close 0, ()⟩,
    ⟨.announce .registered, ()⟩]

/-- A device has been told to fetch an image. -/
def Update.triggered : List (Exchange World) :=
  [⟨.connect (.ofCredentials Registration.issued), .ok 0⟩,
    ⟨.subscribe 0 (Topic.status "device"), .ok ()⟩, ⟨.subscribe 0 (Topic.update "device"), .ok ()⟩,
    ⟨.announce .awaitingTrigger, ()⟩,
    ⟨.receive 0, .ok ⟨Topic.update "device", (UpdateTrigger.document "image").bytes⟩⟩,
    ⟨.announce (.downloading 0), ()⟩,
    ⟨.publish 0 (Topic.status "device") (StatusReport.received "image").message.bytes, .ok ()⟩,
    ⟨.start (.fetch "image"), ()⟩]

/-- It hears its own report on the topic where it heard the trigger. -/
def Update.echo : Exchange World :=
  ⟨.turn (.fetch "image") (some 0),
    .heard ⟨Topic.update "device", (StatusReport.received "image").message.bytes⟩⟩

/-- The image is there. -/
def Update.fetched : Exchange World :=
  ⟨.turn (.fetch "image") (some 0), .over (.ok ⟨"/staged", 7, "digest"⟩)⟩

/-- It reports that, and is done. -/
def Update.settled : List (Exchange World) :=
  [⟨.announce .succeeded, ()⟩,
    ⟨.publish 0 (Topic.status "device") (StatusReport.downloaded "image").message.bytes, .ok ()⟩,
    ⟨.publish 0 (Topic.status "device") (StatusReport.succeeded "image").message.bytes, .ok ()⟩,
    ⟨.close 0, ()⟩]

/-- How the update ends. -/
def Update.fetchedEnd : Machine where
  state := .succeeded
  budget := 2
  watched := { value := .succeeded, changes := 4 }

open Registration in
theorem echoes_ignored_rehearsed :
    (Echoed Registration.rehearsed (requested ++ reply :: settled)
        (requested ++ [Registration.echo] ++ reply :: settled) ∧
      Runs Registration.rehearsed (requested ++ [Registration.echo] ++ reply :: settled)
        (.ok issued, Registration.rehearsalEnd)) ∧
    Echoed Update.rehearsed (Update.triggered ++ Update.fetched :: Update.settled)
        (Update.triggered ++ [Update.echo] ++ Update.fetched :: Update.settled) ∧
      Runs Update.rehearsed (Update.triggered ++ [Update.echo] ++ Update.fetched :: Update.settled)
        (.ok (.updated ⟨"/staged", 7, "digest"⟩), Update.fetchedEnd) := by
  obtain ⟨-, -, -, -, -, -, -, hregistration, hupdate⟩ := echoes_ignored
  constructor
  · have hruns : Runs Registration.rehearsed (requested ++ reply :: settled)
        (.ok issued, Registration.rehearsalEnd) := by
      have h : replayed 4 Registration.rehearsed (requested ++ reply :: settled) =
          (some (.ok issued, Registration.rehearsalEnd), 0) := by
        decide +kernel
      exact runs_of_replayed h
    have hasks : Asks Registration.rehearsed requested reply.call := hruns.asks rfl
    have hechoed := echoed_once (e := Registration.echo) hasks rfl (.head _) (reply :: settled)
    exact ⟨hechoed, ((hregistration _ _ _ _ _ hechoed).runs _).mp hruns⟩
  · have hruns : Runs Update.rehearsed (Update.triggered ++ Update.fetched :: Update.settled)
        (.ok (.updated ⟨"/staged", 7, "digest"⟩), Update.fetchedEnd) := by
      have h : replayed 4 Update.rehearsed (Update.triggered ++ Update.fetched :: Update.settled) =
          (some (.ok (.updated ⟨"/staged", 7, "digest"⟩), Update.fetchedEnd), 0) := by
        decide +kernel
      exact runs_of_replayed h
    have hasks : Asks Update.rehearsed Update.triggered Update.fetched.call := hruns.asks rfl
    have hechoed := echoed_once (e := Update.echo) hasks rfl (.head _)
      (Update.fetched :: Update.settled)
    exact ⟨hechoed, ((hupdate _ _ _ _ _ hechoed).runs _).mp hruns⟩

end UpdateAgent
