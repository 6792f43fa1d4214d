import UpdateAgent.Proofs.Session.Cycle
import UpdateAgent.Proofs.Session.Discipline

/-!
# Connections

However often a cycle is run, and whatever the broker, the downloader and the store do, the device
never has two connections open and leaves none open. It uses the shared login only while it awaits a
registration reply, and its own only once, when it is registered; after that it does not connect
again (`runs_orderly`).
-/

namespace UpdateAgent

open Program Trace

variable {trace : List (Exchange World)} {s : Standing}

/-- What a device with a shared login does while it stands as its calls tell, from `s` on. -/
structure Orderly (shared : Login) (s : Standing) (trace : List (Exchange World)) : Prop where
  /-- At every moment at most one connection is open. -/
  single : ∀ before after, trace = before ++ after → (s.after before).links.length ≤ 1
  /-- The device connects when no connection is open: with the shared login while it awaits a
  registration reply, and otherwise with that of its credentials when it is registered. Then it does
  not connect again, whatever came of it. -/
  connects : ∀ before login result after, trace = before ++ ⟨.connect login, result⟩ :: after →
    (s.after before).links = [] ∧
      (((s.after before).state = .awaitingReply ∧ login = shared) ∨
        ((s.after before).state = .registered ∧
          (∃ c, (s.after before).known = some c ∧ login = .ofCredentials c) ∧
          ∀ e ∈ after, ∀ login', e.call ≠ .connect login'))
  /-- Every call on a connection is made on the one that is open. If that was opened while a
  registration reply was awaited, one still is; otherwise a registered device opened it. -/
  calls : ∀ before e after link, trace = before ++ e :: after → e.call.link? = some link →
    ((s.after before).links = [(link, .awaitingReply)] ∧
        (s.after before).state = .awaitingReply) ∨
      (s.after before).links = [(link, .registered)]
  /-- At most one put comes off. -/
  stores : (Credentials.stored (puts trace)).length ≤ 1

/-- It is orderly to keep to the rules without booting again. -/
theorem orderly_of_lawful {shared : Login}
    (h : (discipline (· = shared) False).Lawful s trace) (hlinks : s.links.length ≤ 1) :
    Orderly shared s trace := by
  constructor
  case single =>
    rintro before after rfl
    have hbefore := (Monitor.lawful_append.mp h).1
    exact hbefore.keeps (P := fun s => s.links.length ≤ 1) hlinks
      fun _ _ _ => Standing.length_links_step
  case connects =>
    rintro before login result after rfl
    obtain ⟨-, ⟨hnone, hmay⟩, hafter⟩ := Monitor.lawful_append.mp h
    refine ⟨hnone, ?_⟩
    rcases hmay with ⟨hstate, -, hshared⟩ | ⟨hstate, -, c, hknown, hlogin⟩
    · exact .inl ⟨hstate, hshared⟩
    · refine .inr ⟨hstate, ⟨c, hknown, hlogin⟩, fun e he login' => ?_⟩
      refine Standing.no_connect hafter ⟨?_, ?_⟩ he login'
      · exact Option.isSome_iff_exists.mpr ⟨c, hknown⟩
      · exact Standing.connect_of_registered hstate result
  case calls =>
    rintro before e after link rfl hlink
    obtain ⟨-, hallows, -⟩ := Monitor.lawful_append.mp h
    exact hallows.holds hlink
  case stores =>
    refine length_stored_le_one ?_
    rintro before c after rfl c' r hstore
    obtain ⟨-, -, hafter⟩ := Monitor.lawful_append.mp h
    -- A device that does not boot again loads no other credentials.
    have hloads (e : Exchange World) (he : e ∈ after) (loaded : Except StoreError _)
        (hload : e = ⟨.load, loaded⟩) : loaded = .ok (some c) := by
      obtain ⟨_, -, hallows⟩ := hafter.exists_of_mem (P := fun _ => True) trivial
        (fun _ _ _ _ _ => trivial) he
      rw [hload] at hallows
      exact hallows.1.elim
    obtain ⟨s', hknown, -, hnone⟩ := hafter.exists_of_mem (P := fun s => s.known = some c) rfl
      (fun _ e he hs' hallows => Standing.known_step hs' (hloads e he) hallows) hstore
    cases hknown.symm.trans hnone

/-- A boot that comes first changes nothing about that. -/
theorem Orderly.cons_load {shared : Login} {loaded : Except StoreError (Option Credentials)}
    (hlinks : s.links.length ≤ 1)
    (h : Orderly shared (s.step ⟨.load, loaded⟩) trace) :
    Orderly shared s (⟨.load, loaded⟩ :: trace) := by
  constructor
  case single =>
    intro before after htrace
    cases before with
    | nil => exact hlinks
    | cons e before =>
      cases htrace
      exact h.single before after rfl
  case connects =>
    intro before login result after htrace
    cases before with
    | nil => cases htrace
    | cons e before =>
      cases htrace
      exact h.connects before login result after rfl
  case calls =>
    intro before e after link htrace hlink
    cases before with
    | nil =>
      cases htrace
      cases hlink
    | cons e' before =>
      cases htrace
      exact h.calls before e after link rfl hlink
  case stores => exact h.stores

namespace Cycle

variable {config : CycleConfig} {cycle : Cycle} {n : Nat}

/-- Runs a cycle a number of times. -/
def runs (config : CycleConfig) : Nat → Cycle → Program World (List CycleOutcome × Cycle)
  | 0, cycle => return ([], cycle)
  | n + 1, cycle => do
    let (outcome, cycle) ← run config cycle
    let (outcomes, cycle) ← runs config n cycle
    return (outcome :: outcomes, cycle)

theorem runs_obeys {shared : Login → Prop} {mayBoot : Prop} (h : Ready cycle s)
    (hshared : shared config.registration.bootstrap) :
    (discipline shared mayBoot).Obeys s (runs config n cycle) fun p s' => Ready p.2 s' := by
  induction n generalizing cycle s with
  | zero => exact Monitor.obeys_pure h
  | succ n ih =>
    refine Monitor.obeys_bind (run_obeys h hshared) fun p s₁ h₁ => ?_
    refine Monitor.obeys_bind (ih h₁) fun q s₂ h₂ => ?_
    exact Monitor.obeys_pure h₂

/-- Runs of a cycle after a boot are orderly, as far as they have come. When the last of them has
returned, no connection is open and the device stands where the machine of the cycle is. -/
theorem runs_orderly (config : CycleConfig) (n : Nat) (trace : List (Exchange World)) :
    (Began (load config >>= runs config n) trace →
      Orderly config.registration.bootstrap {} trace) ∧
    ∀ outcomes cycle, Runs (load config >>= runs config n) trace (outcomes, cycle) →
      (({} : Standing).after trace).links = [] ∧
        (({} : Standing).after trace).state = cycle.machine.state := by
  have hempty : ({} : Standing).links.length ≤ 1 := Nat.zero_le 1
  have hnone : Orderly config.registration.bootstrap {} [] :=
    orderly_of_lawful trivial hempty
  have hobeys (loaded : Except StoreError (Option Credentials)) :
      (discipline (· = config.registration.bootstrap) False).Obeys
        (({} : Standing).step ⟨.load, loaded⟩)
        (runs config n (prepare config loaded.toOption.join)) fun p => Ready p.2 :=
    runs_obeys (ready_load rfl loaded) rfl
  constructor
  · intro h
    rw [load_bind] at h
    rcases began_request_bind h with rfl | ⟨loaded, rest, hrest, rfl⟩
    · exact hnone
    · refine .cons_load hempty (orderly_of_lawful ((hobeys loaded).lawful hrest ?_) ?_)
      · exact Monitor.expected_of_forall fun _ _ => trivial
      · rw [Standing.step_load]
        exact hempty
  · intro outcomes cycle h
    obtain ⟨first, prepared, rest, hload, hrest, rfl⟩ := runs_bind.mp h
    obtain ⟨loaded, rfl, rfl⟩ := runs_load.mp hload
    have hend := (hobeys loaded).runs _ _ hrest (Monitor.expected_of_forall fun _ _ => trivial)
    exact ⟨hend.idle.links, hend.idle.state⟩

/-- A device on the bench registers and is updated, and its cycle is run once more in vain. -/
theorem runs_orderly_rehearsed :
    ∃ trace cycle, Runs (load rehearsalConfig >>= runs rehearsalConfig 2) trace
        ([.updated ⟨"/staged", 7, "digest"⟩,
          .aborted (.registration (.invalidState .succeeded))], cycle) ∧
      Orderly rehearsalConfig.registration.bootstrap {} trace ∧
      (({} : Standing).after trace).links = [] := by
  have hend : ((load rehearsalConfig >>= runs rehearsalConfig 2).run Bench.answer.recorded 8
      (rehearsal, [])).1.map (·.1) = some [.updated ⟨"/staged", 7, "digest"⟩,
        .aborted (.registration (.invalidState .succeeded))] := by
    decide +kernel
  obtain ⟨⟨_, cycle⟩, hrun, rfl⟩ := Option.map_eq_some_iff.mp hend
  obtain ⟨hruns, -⟩ := runs_of_run hrun
  obtain ⟨horderly, hreturned⟩ := runs_orderly rehearsalConfig 2 _
  exact ⟨_, cycle, hruns, horderly hruns.began, (hreturned _ _ hruns).1⟩

end Cycle

end UpdateAgent
