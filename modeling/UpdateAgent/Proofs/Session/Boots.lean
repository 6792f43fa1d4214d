import UpdateAgent.Agent.Basic
import UpdateAgent.Proofs.Session.Discipline
import UpdateAgent.Proofs.Store.History

/-!
# Boots

A device is booted again and again over one store of credentials, which holds none at first. It logs
in with the credentials that are in the store at that moment, and with nothing else
(`boots_provisioned`). As long as the store can be read, the first credentials that are stored stay
the only ones: every boot from then on finds them.
-/

namespace UpdateAgent

open Program Trace Credentials

variable {store : CredentialStore} {t t' : Tree} {trace : List (Exchange World)}

/-! ## Credentials on disk -/

/-- What a call does to the tree that the credentials are kept in. They are read as they are found
there, or cannot be read, and are put there on a disk on which every step may fail. -/
inductive Serves (store : CredentialStore) : Tree → Exchange World → Tree → Prop
  | found {t : Tree} {loaded : Except StoreError (Option Credentials)}
      (hget : Disk.run none store.get t = (some loaded, t)) : Serves store t ⟨.load, loaded⟩ t
  | unread (t : Tree) (error : StoreError) : Serves store t ⟨.load, .error error⟩ t
  | put {t t' : Tree} {suffix : List Char} {c : Credentials} {result : Except StoreError Unit}
      {steps : List (Exchange Disk)} (hsuffix : '/' ∉ suffix)
      (hput : Runs (store.put suffix c) steps result) (hsteps : Disk.Steps t steps t') :
      Serves store t ⟨.store c, result⟩ t'
  | other (t : Tree) {e : Exchange World} (hload : e.call ≠ .load)
      (hstore : ∀ c, e.call ≠ .store c) : Serves store t e t

/-- What calls one after the other do to it. -/
inductive Kept (store : CredentialStore) : Tree → List (Exchange World) → Tree → Prop
  | nil (t : Tree) : Kept store t [] t
  | cons {t t' t'' : Tree} {e : Exchange World} {trace : List (Exchange World)}
      (this : Serves store t e t') (rest : Kept store t' trace t'') : Kept store t (e :: trace) t''

theorem kept_append {first rest : List (Exchange World)} (h : Kept store t (first ++ rest) t') :
    ∃ t₁, Kept store t first t₁ ∧ Kept store t₁ rest t' := by
  induction first generalizing t with
  | nil => exact ⟨t, .nil t, h⟩
  | cons e first ih =>
    cases h with
    | cons this h =>
      obtain ⟨t₁, hfirst, hrest⟩ := ih h
      exact ⟨t₁, .cons this hfirst, hrest⟩

/-- Of all calls only the `put`s change the tree. -/
theorem Kept.puts (h : Kept store t trace t') : CredentialStore.Puts store t (puts trace) t' := by
  induction h with
  | nil t => exact .nil t
  | @cons t t₁ t' e trace this rest ih =>
    cases this with
    | found hget => exact ih
    | unread error => exact ih
    | put hsuffix hput hsteps => exact .cons hsuffix hput hsteps ih
    | other hload hstore =>
      obtain ⟨c, r⟩ := e
      cases c with
      | store c => exact absurd rfl (hstore c)
      | _ => exact ih

section Vacant

variable (hvalid : t.Valid) (hvacant : store.Vacant t)

include hvalid hvacant

/-- Where there were no credentials at first, a boot finds the last that were stored. -/
theorem last_stored_of_found {c : Credentials} {rest : List (Exchange World)}
    (h : Kept store t (trace ++ ⟨.load, .ok (some c)⟩ :: rest) t') :
    (stored (puts trace)).getLast? = some c := by
  obtain ⟨t₁, hbefore, hload⟩ := kept_append h
  cases hload with
  | cons this =>
    cases this with
    | found hget => exact (CredentialStore.run_get_iff hvalid hvacant hbefore.puts c).mp hget
    | other hload => exact absurd rfl hload

/-- If the store can be read, it finds them. -/
theorem found_of_last_stored {c : Credentials}
    {loaded : Except StoreError (Option Credentials)} {rest : List (Exchange World)}
    (h : Kept store t (trace ++ ⟨.load, loaded⟩ :: rest) t')
    (hlast : (stored (puts trace)).getLast? = some c) :
    loaded = .ok (some c) ∨ ∃ error, loaded = .error error := by
  obtain ⟨t₁, hbefore, hload⟩ := kept_append h
  cases hload with
  | cons this =>
    cases this with
    | found hget =>
      rw [(CredentialStore.run_get_iff hvalid hvacant hbefore.puts c).mpr hlast] at hget
      cases hget
      exact .inl rfl
    | unread error => exact .inr ⟨error, rfl⟩
    | other hload => exact absurd rfl hload

/-- What a device knows are the credentials in the store. -/
theorem last_stored_of_known {shared : Login → Prop} {mayBoot : Prop}
    (hlawful : (discipline shared mayBoot).Lawful {} trace) (h : Kept store t trace t')
    {c : Credentials} (hknown : (({} : Standing).after trace).known = some c) :
    (stored (puts trace)).getLast? = some c := by
  -- On the last call: the credentials are loaded or stored by it, or were known before.
  induction trace using List.reverseRecOn generalizing t' with
  | nil => cases hknown
  | append_singleton before e ih =>
    obtain ⟨hbefore, -⟩ := Monitor.lawful_append.mp hlawful
    obtain ⟨t₁, hkept, -⟩ := kept_append h
    have hold := ih hbefore hkept
    rw [Standing.after_append] at hknown
    generalize hs : ({} : Standing).after before = s at hknown hold
    rcases s.known_cases e with ⟨loaded, rfl, hstep⟩ | ⟨c', rfl, hstep⟩ | ⟨hne, hstep⟩ <;>
      rw [Standing.after_singleton, hstep] at hknown
    · have hloaded : loaded = .ok (some c) := by
        match loaded, hknown with
        | .ok (some c), rfl => rfl
      have hne (c : Credentials) :
          (⟨.load, loaded⟩ : Exchange World) ≠ ⟨.store c, .ok ()⟩ := by
        rintro ⟨⟩
      rw [stored_puts_concat hne]
      rw [hloaded] at h
      exact last_stored_of_found hvalid hvacant h
    · cases hknown
      rw [puts_append, stored_append]
      exact List.getLast?_concat
    · rw [stored_puts_concat hne]
      exact hold hknown

/-- Once credentials were stored, a device that can read its store finds them at every boot, and
stores none. -/
theorem loads_of_stored {shared : Login → Prop} {mayBoot : Prop} {c : Credentials}
    {before after : List (Exchange World)}
    (hlawful : (discipline shared mayBoot).Lawful {} (before ++ ⟨.store c, .ok ()⟩ :: after))
    (hkept : Kept store t (before ++ ⟨.store c, .ok ()⟩ :: after) t')
    (hread : ∀ error, ⟨.load, .error error⟩ ∉ after) :
    puts after = [] ∧ ∀ loaded, ⟨.load, loaded⟩ ∈ after → loaded = .ok (some c) := by
  -- On the last call: as long as nothing else is stored, the store holds these credentials.
  induction after using List.reverseRecOn generalizing t' with
  | nil => exact ⟨rfl, nofun⟩
  | append_singleton after e ih =>
    rw [← List.cons_append, ← List.append_assoc] at hlawful hkept
    obtain ⟨hlawful, hallows, -⟩ := Monitor.lawful_append.mp hlawful
    obtain ⟨t₁, hkept₁, hlast⟩ := kept_append hkept
    obtain ⟨hquiet, hloads⟩ := ih hlawful hkept₁ fun error he =>
      hread error (List.mem_append_left _ he)
    have hstored : (stored (puts (before ++ ⟨.store c, .ok ()⟩ :: after))).getLast? = some c := by
      rw [puts_append, stored_append]
      show (stored (puts before) ++ c :: stored (puts after)).getLast? = some c
      rw [hquiet]
      exact List.getLast?_concat
    have hknown :
        (({} : Standing).after (before ++ ⟨.store c, .ok ()⟩ :: after)).known = some c := by
      rw [Standing.after_append, Standing.after_cons]
      exact Standing.known_after (Monitor.lawful_append.mp hlawful).2.2 rfl hloads
    have hload : ∀ loaded, e = ⟨.load, loaded⟩ → loaded = .ok (some c) := by
      rintro loaded rfl
      rcases found_of_last_stored hvalid hvacant hkept hstored with hfound | ⟨error, rfl⟩
      · exact hfound
      · exact absurd (List.mem_append_right after List.mem_cons_self) (hread error)
    have hprovisioned := Standing.provisioned_of_known hknown hload hallows
    constructor
    · have hput : put? e = none := by
        obtain ⟨call, r⟩ := e
        cases call with
        | store c' => exact hprovisioned.elim
        | _ => rfl
      rw [puts_append, hquiet, puts, List.filterMap_cons_none hput]
      rfl
    · intro loaded he
      rcases List.mem_append.mp he with he | he
      · exact hloads loaded he
      · exact hload loaded (List.mem_singleton.mp he).symm

/-- It stands by them from then on. -/
theorem provisioned_of_stored {shared : Login → Prop} {mayBoot : Prop} {c : Credentials}
    {e : Exchange World} {before first rest : List (Exchange World)}
    (hlawful : (discipline shared mayBoot).Lawful {}
      (before ++ ⟨.store c, .ok ()⟩ :: (first ++ e :: rest)))
    (hkept : Kept store t (before ++ ⟨.store c, .ok ()⟩ :: (first ++ e :: rest)) t')
    (hread : ∀ error, ⟨.load, .error error⟩ ∉ first ++ e :: rest) :
    (({} : Standing).after (before ++ ⟨.store c, .ok ()⟩ :: first)).Provisioned c e := by
  obtain ⟨-, hloads⟩ := loads_of_stored hvalid hvacant hlawful hkept hread
  obtain ⟨-, -, hafter⟩ := Monitor.lawful_append.mp hlawful
  obtain ⟨hfirst, hallows, -⟩ := Monitor.lawful_append.mp hafter
  rw [Standing.after_append, Standing.after_cons]
  refine Standing.provisioned_of_known (Standing.known_after hfirst rfl ?_) ?_ hallows
  · exact fun loaded he => hloads loaded (List.mem_append_left _ he)
  · rintro loaded rfl
    exact hloads loaded (List.mem_append_right _ List.mem_cons_self)

/-- A login is a shared one, or that of the credentials in the store. -/
theorem login_cases {shared : Login → Prop} {mayBoot : Prop} {login : Login}
    {result : Except BusError Link} {before after : List (Exchange World)}
    (hlawful : (discipline shared mayBoot).Lawful {}
      (before ++ ⟨.connect login, result⟩ :: after))
    (hkept : Kept store t (before ++ ⟨.connect login, result⟩ :: after) t') :
    ((({} : Standing).after before).state = .awaitingReply ∧ shared login) ∨
      ((({} : Standing).after before).state = .registered ∧
        ∃ c, login = .ofCredentials c ∧ (stored (puts before)).getLast? = some c ∧
          ∀ t₁, Kept store t before t₁ →
            Disk.run none store.get t₁ = (some (.ok (some c)), t₁)) := by
  obtain ⟨hbefore, ⟨-, hmay⟩, -⟩ := Monitor.lawful_append.mp hlawful
  rcases hmay with ⟨hstate, -, hshared⟩ | ⟨hstate, -, c, hknown, hlogin⟩
  · exact .inl ⟨hstate, hshared⟩
  · obtain ⟨t₁, hkept₁, -⟩ := kept_append hkept
    have hlast := last_stored_of_known hvalid hvacant hbefore hkept₁ hknown
    refine .inr ⟨hstate, c, hlogin, hlast, fun t₁ hkept₁ => ?_⟩
    exact CredentialStore.run_get_stored hvalid hkept₁.puts hlast

end Vacant

/-! ## Boots one after the other -/

/-- A boot loads a cycle and runs it. -/
theorem wholeCycle_bind {β : Type} (config : CycleConfig) (f : CycleOutcome → Program World β) :
    Agent.wholeCycle config >>= f = World.load >>= fun loaded =>
      Cycle.run config (Cycle.prepare config loaded.toOption.join) >>= fun p => f p.1 := by
  rw [Agent.wholeCycle, bind_assoc, Cycle.load_bind]
  simp only [bind_assoc, pure_bind]

theorem runs_wholeCycle {config : CycleConfig} {loaded : Except StoreError (Option Credentials)}
    {p : CycleOutcome × Cycle}
    (h : Runs (Cycle.run config (Cycle.prepare config loaded.toOption.join)) trace p) :
    Runs (Agent.wholeCycle config) (⟨.load, loaded⟩ :: trace) p.1 := by
  rw [← bind_pure (Agent.wholeCycle config), wholeCycle_bind]
  refine runs_request_bind.mpr ⟨loaded, trace, ?_, rfl⟩
  exact runs_bind.mpr ⟨trace, p, [], h, .done p.1, (List.append_nil trace).symm⟩

/-- Once the cycle runs, the boot loads nothing more. -/
theorem load_notMem {config : CycleConfig} {credentials : Option Credentials}
    (h : Began (Cycle.run config (Cycle.prepare config credentials)) trace)
    (loaded : Except StoreError (Option Credentials)) : ⟨.load, loaded⟩ ∉ trace :=
  fun he => Cycle.ne_load (Cycle.ready_prepare (s := {}) rfl credentials) h he rfl

theorem wholeCycle_obeys {shared : Login → Prop} {config : CycleConfig} {s : Standing}
    (hshared : shared config.registration.bootstrap) (hlinks : s.links = []) :
    (discipline shared True).Obeys s (Agent.wholeCycle config) fun _ s' => s'.links = [] := by
  refine Monitor.obeys_bind (Cycle.load_obeys hlinks) fun cycle s₁ h₁ => ?_
  refine Monitor.obeys_bind (Cycle.run_obeys h₁ hshared) fun p s₂ h₂ => ?_
  exact Monitor.obeys_pure h₂.idle.links

theorem boots_obeys {shared : Login → Prop} {configs : List CycleConfig} {s : Standing}
    (hshared : ∀ config ∈ configs, shared config.registration.bootstrap) (hlinks : s.links = []) :
    (discipline shared True).Obeys s (configs.mapM Agent.wholeCycle)
      fun _ s' => s'.links = [] := by
  induction configs generalizing s with
  | nil =>
    rw [List.mapM_nil]
    exact Monitor.obeys_pure hlinks
  | cons config configs ih =>
    rw [List.mapM_cons]
    refine Monitor.obeys_bind (wholeCycle_obeys (hshared config List.mem_cons_self) hlinks) ?_
    intro outcome s₁ h₁
    refine Monitor.obeys_bind (ih (fun config' hconfig =>
      hshared config' (List.mem_cons_of_mem _ hconfig)) h₁) fun outcomes s₂ h₂ => ?_
    exact Monitor.obeys_pure h₂

/-- One of the boots with these configurations begins after the calls `before`. The reply to its
load makes it this cycle, and what comes after is the run of the cycle, with the later boots behind
it. -/
inductive BootsAt : List CycleConfig → List (Exchange World) →
    Except StoreError (Option Credentials) → Cycle → List (Exchange World) → Prop
  | now {config : CycleConfig} {configs : List CycleConfig} {cycle : Cycle}
      {loaded : Except StoreError (Option Credentials)} {after : List (Exchange World)}
      (load : Runs (Cycle.load config) [⟨.load, loaded⟩] cycle)
      (run : Began (Cycle.run config cycle >>= fun _ => configs.mapM Agent.wholeCycle) after) :
      BootsAt (config :: configs) [] loaded cycle after
  | later {config : CycleConfig} {configs : List CycleConfig} {outcome : CycleOutcome}
      {first before after : List (Exchange World)} {cycle : Cycle}
      {loaded : Except StoreError (Option Credentials)}
      (this : Runs (Agent.wholeCycle config) first outcome)
      (rest : BootsAt configs before loaded cycle after) :
      BootsAt (config :: configs) (first ++ before) loaded cycle after

section BootsAt

variable {configs : List CycleConfig} {before after : List (Exchange World)}
  {loaded : Except StoreError (Option Credentials)} {cycle : Cycle}

theorem BootsAt.eq_prepare (h : BootsAt configs before loaded cycle after) :
    ∃ config, cycle = Cycle.prepare config loaded.toOption.join := by
  induction h with
  | now load _ =>
    obtain ⟨_, ⟨⟩, hcycle⟩ := Cycle.runs_load.mp load
    exact ⟨_, hcycle⟩
  | later _ _ ih => exact ih

/-- Every load is that of a boot. -/
theorem exists_bootsAt
    (h : Began (configs.mapM Agent.wholeCycle) (before ++ ⟨.load, loaded⟩ :: after)) :
    ∃ cycle, BootsAt configs before loaded cycle after := by
  induction configs generalizing before with
  | nil =>
    rw [List.mapM_nil, began_pure] at h
    simp at h
  | cons config configs ih =>
    rw [List.mapM_cons, wholeCycle_bind] at h
    rcases began_request_bind h with hnil | ⟨loaded', rest, hrest, htrace⟩
    · simp at hnil
    cases before with
    | nil =>
      cases htrace
      refine ⟨_, .now (Cycle.runs_load.mpr ⟨loaded, rfl, rfl⟩) ?_⟩
      rcases began_bind hrest with hrun | ⟨running, p, later, hrun, hlater, rfl⟩
      · exact hrun.bind _
      · exact hrun.began_bind (began_bind_pure hlater)
    | cons e before =>
      obtain ⟨rfl, rfl⟩ := List.cons_eq_cons.mp htrace
      -- The run of the first cycle loads nothing, so that the load belongs to a later boot.
      rcases began_bind hrest with hrun | ⟨running, p, later, hrun, hlater, heq⟩
      · exact absurd (by simp) (load_notMem hrun loaded)
      · rcases append_eq_append_cons heq.symm with ⟨l, rfl, rfl⟩ | ⟨l, rfl, -⟩
        · obtain ⟨cycle, hcycle⟩ := ih (began_bind_pure hlater)
          exact ⟨cycle, .later (runs_wholeCycle hrun) hcycle⟩
        · exact absurd (by simp) (load_notMem hrun.began loaded)

end BootsAt

/-- However often a device is booted over a store that holds no credentials at first, and whatever
the broker, the downloader and the disk do: it logs in over a shared login while it awaits a
registration reply, and otherwise, when it is registered, with the credentials of the last put that
came off, which are those that the store holds at that moment. Whenever it loads something a boot
begins, and it stands then where the machine of the cycle is that it loaded. If the store can always
be read, then from the first put that comes off every boot finds those credentials and loads a cycle
with them whose machine is registered, no shared login is used, no registration is asked for and
nothing is stored, so that at most one put comes off. -/
theorem boots_provisioned (hvalid : t.Valid) (hvacant : store.Vacant t)
    {configs : List CycleConfig} (hbegan : Began (configs.mapM Agent.wholeCycle) trace)
    (hkept : Kept store t trace t') :
    (∀ before login result after, trace = before ++ ⟨.connect login, result⟩ :: after →
      ((({} : Standing).after before).state = .awaitingReply ∧
        ∃ config ∈ configs, login = config.registration.bootstrap) ∨
      ((({} : Standing).after before).state = .registered ∧
        ∃ c, login = .ofCredentials c ∧ (stored (puts before)).getLast? = some c ∧
          ∀ t₁, Kept store t before t₁ →
            Disk.run none store.get t₁ = (some (.ok (some c)), t₁))) ∧
    (∀ before loaded after, trace = before ++ ⟨.load, loaded⟩ :: after →
      ∃ cycle, BootsAt configs before loaded cycle after ∧
        (({} : Standing).after (before ++ [⟨.load, loaded⟩])).state = cycle.machine.state) ∧
    ((∀ error, ⟨.load, .error error⟩ ∉ trace) →
      (∀ before c after, trace = before ++ ⟨.store c, .ok ()⟩ :: after →
        (∀ first loaded cycle rest, after = first ++ ⟨.load, loaded⟩ :: rest →
          BootsAt configs (before ++ ⟨.store c, .ok ()⟩ :: first) loaded cycle rest →
          cycle.machine.state = .registered ∧ cycle.credentials = some c) ∧
        ∀ first e rest, after = first ++ e :: rest →
          (({} : Standing).after (before ++ ⟨.store c, .ok ()⟩ :: first)).Provisioned c e) ∧
      (stored (puts trace)).length ≤ 1) := by
  have hobeys : (discipline (fun login => ∃ config ∈ configs,
      login = config.registration.bootstrap) True).Obeys {} (configs.mapM Agent.wholeCycle)
        fun _ s' => s'.links = [] :=
    boots_obeys (fun config hconfig => ⟨config, hconfig, rfl⟩) rfl
  have hlawful := hobeys.lawful hbegan (Monitor.expected_of_forall fun _ _ => trivial)
  refine ⟨?_, ?_, ?_⟩
  · rintro before login result after rfl
    exact login_cases hvalid hvacant hlawful hkept
  · rintro before loaded after rfl
    obtain ⟨-, ⟨-, hlinks⟩, -⟩ := Monitor.lawful_append.mp hlawful
    obtain ⟨cycle, hboot⟩ := exists_bootsAt hbegan
    obtain ⟨config, rfl⟩ := hboot.eq_prepare
    refine ⟨_, hboot, ?_⟩
    rw [Standing.after_append, Standing.after_singleton]
    exact (Cycle.ready_load hlinks loaded).idle.state
  · intro hread
    have hprovisioned : ∀ before c after, trace = before ++ ⟨.store c, .ok ()⟩ :: after →
        ∀ first e rest, after = first ++ e :: rest →
          (({} : Standing).after (before ++ ⟨.store c, .ok ()⟩ :: first)).Provisioned c e := by
      rintro before c after rfl first e rest rfl
      refine provisioned_of_stored hvalid hvacant hlawful hkept fun error he => ?_
      exact hread error (List.mem_append_right _ (List.mem_cons_of_mem _ he))
    refine ⟨fun before c after htrace => ⟨?_, hprovisioned before c after htrace⟩,
      length_stored_le_one ?_⟩
    · intro first loaded cycle rest hafter hboot
      obtain ⟨config, rfl⟩ := hboot.eq_prepare
      obtain rfl : loaded = .ok (some c) := hprovisioned before c after htrace first _ rest hafter
      exact ⟨(Cycle.ready_prepare (s := {}) rfl (some c)).idle.state.symm, rfl⟩
    · rintro before c after htrace c' r hstore
      obtain ⟨first, rest, hafter⟩ := List.append_of_mem hstore
      exact hprovisioned before c after htrace first _ rest hafter

/-- The bench, with the credentials on a disk. -/
def onDisk (store : CredentialStore) : Surroundings World (Bench × Tree)
  | .load, (bench, t) =>
    let (loaded, t) := Disk.run none store.get t
    (loaded, (bench, t))
  | .store c, (bench, t) =>
    let (stored, (t, _)) := (store.put "abcdef".toList c).run Disk.keeping.recorded 1 (t, [])
    (stored, (bench, t))
  | other, (bench, t) =>
    let (reply, bench) := Bench.answer other bench
    (reply, (bench, t))

theorem serves_onDisk {bench bench' : Bench} {c : WorldCall} {r : WorldReply c}
    (h : onDisk store c (bench, t) = (some r, (bench', t'))) : Serves store t ⟨c, r⟩ t' := by
  cases c with
  | load =>
    obtain ⟨loaded, hget⟩ := store.exists_run_get t
    simp only [onDisk, hget] at h
    cases h
    exact .found hget
  | store c =>
    rcases hput : (store.put "abcdef".toList c).run Disk.keeping.recorded 1 (t, []) with
      ⟨stored, t₁, steps⟩
    simp only [onDisk, hput] at h
    cases h
    obtain ⟨hruns, hsteps⟩ := Disk.steps_of_run hput
    exact .put (by decide) hruns hsteps
  | _ =>
    obtain rfl : t = t' := congrArg (·.2.2) h
    exact .other t nofun nofun

theorem kept_onDisk {w w' : Bench × Tree} (h : Answered (onDisk store) w trace w') :
    Kept store w.2 trace w'.2 := by
  induction h with
  | nil w => exact .nil w.2
  | cons this _ ih => exact .cons (serves_onDisk this) ih

/-- No load failed. -/
def canRead (trace : List (Exchange World)) : Bool :=
  trace.all fun
    | ⟨.load, .error _⟩ => false
    | _ => true

/-- Credentials are stored, and later something is loaded. -/
def isBootedAgain : List (Exchange World) → Bool
  | [] => false
  | ⟨.store _, .ok ()⟩ :: rest => rest.any (·.call matches .load)
  | _ :: rest => isBootedAgain rest

theorem exists_of_isBootedAgain (h : isBootedAgain trace) : ∃ before c first loaded rest,
    trace = before ++ ⟨.store c, .ok ()⟩ :: (first ++ ⟨.load, loaded⟩ :: rest) := by
  fun_induction isBootedAgain trace with
  | case1 => cases h
  | case2 c rest =>
    obtain ⟨⟨call, loaded⟩, he, hload⟩ := List.any_eq_true.mp h
    cases call with
    | load =>
      obtain ⟨first, rest, rfl⟩ := List.append_of_mem he
      exact ⟨[], c, first, loaded, rest, rfl⟩
    | _ => cases hload
  | case3 e rest _ ih =>
    obtain ⟨before, c, first, loaded, rest, rfl⟩ := ih h
    exact ⟨e :: before, c, first, loaded, rest, rfl⟩

/-- A device on the bench registers at its first boot. Its own login is refused then, and is made
again after the second boot. -/
def bootsRehearsal : Bench where
  limit := 100
  connects := Registration.rehearsal.connects ++ [{ refusal := some "unreachable" }] ++
    Update.rehearsal.connects
  fetches := Update.rehearsal.fetches

/-- Its two boots. -/
def rehearsalConfigs : List CycleConfig :=
  [Cycle.rehearsalConfig, Cycle.rehearsalConfig]

/-- What it does in them. -/
def bootsRehearsed : Program World (List CycleOutcome) :=
  rehearsalConfigs.mapM Agent.wholeCycle

/-- The credentials that it stores at its first boot are those of the cycle that it loads at its
second boot, and the machine of that cycle is registered. -/
theorem boots_provisioned_rehearsed :
    ∃ trace t', Runs bootsRehearsed trace
        [.aborted (.update (.bus (.connect "unreachable"))),
          .updated ⟨"/staged", 7, "digest"⟩] ∧
      Kept CredentialStore.rehearsal {} trace t' ∧ (stored (puts trace)).length ≤ 1 ∧
      ∃ before c first loaded cycle rest,
        trace = before ++ ⟨.store c, .ok ()⟩ :: (first ++ ⟨.load, loaded⟩ :: rest) ∧
        BootsAt rehearsalConfigs (before ++ ⟨.store c, .ok ()⟩ :: first) loaded cycle rest ∧
        cycle.machine.state = .registered ∧ cycle.credentials = some c := by
  have hend : (bootsRehearsed.run (onDisk CredentialStore.rehearsal).recorded 8
      ((bootsRehearsal, {}), [])).1 =
      some [.aborted (.update (.bus (.connect "unreachable"))),
        .updated ⟨"/staged", 7, "digest"⟩] := by
    decide +kernel
  have hcanRead : canRead (bootsRehearsed.run (onDisk CredentialStore.rehearsal).recorded 8
      ((bootsRehearsal, {}), [])).2.2 = true := by
    decide +kernel
  have hagain : isBootedAgain (bootsRehearsed.run (onDisk CredentialStore.rehearsal).recorded 8
      ((bootsRehearsal, {}), [])).2.2 = true := by
    decide +kernel
  obtain ⟨hruns, hanswered⟩ := runs_of_run hend
  have hkept := kept_onDisk hanswered
  have hread (error : StoreError) : ⟨.load, .error error⟩ ∉ (bootsRehearsed.run
      (onDisk CredentialStore.rehearsal).recorded 8 ((bootsRehearsal, {}), [])).2.2 := by
    intro he
    cases List.all_eq_true.mp hcanRead _ he
  obtain ⟨before, c, first, loaded, rest, htrace⟩ := exists_of_isBootedAgain hagain
  obtain ⟨-, hloads, hstored⟩ := boots_provisioned Tree.valid_empty
    (CredentialStore.vacant_empty _) hruns.began hkept
  obtain ⟨hprovisioned, hcount⟩ := hstored hread
  obtain ⟨cycle, hboot, -⟩ := hloads (before ++ ⟨.store c, .ok ()⟩ :: first) loaded rest
    (by rw [htrace, List.append_assoc]; rfl)
  refine ⟨_, _, hruns, hkept, hcount, before, c, first, loaded, cycle, rest, htrace, hboot, ?_⟩
  exact (hprovisioned before c _ htrace).1 first loaded cycle rest rfl hboot

end UpdateAgent
