import UpdateAgent.Proofs.Session.Cycle
import UpdateAgent.Proofs.Store.Document
import UpdateAgent.Agent.Offline

/-!
# Credentials and power cuts

Credentials are replaced as a whole or not at all (`put_cut`): whenever the power goes while they
are stored, the next boot finds those that were stored before, or the new ones once the document was
moved into its place. Only where the way to a document that was never there could not be followed to
its end anyway does a directory that is made on it turn a document that is missing into one that
cannot be read (`put_cut_unclear`).
-/

namespace UpdateAgent.CredentialStore

open UpdateAgent.Path Program Disk

variable {s : CredentialStore} {t t' : Tree} {trace : List (Exchange Disk)} {path : Path}

/-- What a boot makes of what it finds on its disk. -/
theorem run_load (hpath : s.store.documentPath s.collection key = .ok path) (config : CycleConfig)
    (suffix : List Char) (m : Offline.Computer) :
    m.run ((Cycle.load config).through (Agent.carryOut s suffix)) =
      (some (match s.found (m.tree.read path) with
        | .ok credentials => Cycle.prepare config credentials
        | .error _ => Cycle.prepare config none), m) := by
  have hload : (Cycle.load config).through (Agent.carryOut s suffix) =
      (Agent.onFiles s.get).bind fun loaded => (match loaded with
        | .ok credentials => pure (Cycle.prepare config credentials)
        | .error _ => pure (Cycle.prepare config none) : Program World Cycle).through
          (Agent.carryOut s suffix) := rfl
  rw [hload, get_eq, hpath]
  show Program.run Offline.Computer.answer Disk.turns ((match s.found (m.tree.read path) with
    | .ok credentials => pure (Cycle.prepare config credentials)
    | .error _ => pure (Cycle.prepare config none) : Program World Cycle).through _) m = _
  rcases s.found (m.tree.read path) with _ | credentials <;> rfl

/-- Whenever the power goes in the course of a `put`, what is found afterwards are the credentials
that were there before, or the new ones if the document was moved into its place, and never an
error. The next boot starts as a registered device with exactly these, or as one that is not
registered if there are none. -/
theorem put_cut {suffix : List Char} {new : Credentials} {old : Option Credentials}
    (hsuffix : '/' ∉ suffix) (hvalid : t.Valid) (hclear : old = none → s.Clear t)
    (hget : Disk.run none s.get t = (some (.ok old), t))
    (hcut : Cut (s.put suffix new) t trace t') :
    let current := if renamed trace then some new else old
    Disk.run none s.get t' = (some (.ok current), t') ∧
      ∀ (config : CycleConfig) (suffix' : List Char) (m : Offline.Computer), m.tree = t' →
        ∃ cycle, m.run ((Cycle.load config).through (Agent.carryOut s suffix')) = (some cycle, m) ∧
          cycle.credentials = current ∧
          (cycle.machine.state = .registered ↔ old.isSome ∨ renamed trace) := by
  intro current
  rcases hpath : s.store.documentPath s.collection key with error | path
  · -- Without a path nothing could have been found.
    rw [get_eq, hpath] at hget
    cases hget
  · obtain ⟨pre, hpre, rfl⟩ := documentPath_eq hpath
    rw [run_get hpath] at hget
    have hfound : s.found (t.read ⟨pre ++ fileName⟩) = .ok old := by
      simpa using hget
    have hshows := shows_document hpre hpath hvalid hclear hfound
    -- A cut within a write is a write that failed.
    obtain ⟨made, hbegan, hsteps, hrenamed⟩ := hcut.began
    have hread := (shows_put hpre hpath hsuffix hshows hbegan hsteps).read
    have hcurrent : s.found (t'.read ⟨pre ++ fileName⟩) = .ok current := by
      rw [hread, hrenamed]
      by_cases h : renamed trace
      · simp only [current, if_pos h]
        exact found_document s new
      · simp only [current, if_neg h]
        exact hfound
    refine ⟨by rw [run_get hpath, hcurrent], ?_⟩
    rintro config suffix' m rfl
    refine ⟨Cycle.prepare config current, ?_, rfl, ?_⟩
    · rw [run_load hpath, hcurrent]
    · rw [Cycle.prepare_state]
      by_cases h : renamed trace
      · simp [current, h]
      · cases old <;> simp [current, h]

/-- Credentials to store. -/
def rehearsalCredentials : Credentials where
  deviceId := "device"
  username := "user"
  password := "secret"
  clientId := "client"

/-- A store in the root directory. -/
def rehearsal : CredentialStore where
  store := { root := ⟨['/']⟩ }
  owner := "020000000001"

theorem put_cut_rehearsed :
    ∃ trace t', Cut (rehearsal.put "abcdef".toList rehearsalCredentials) {} trace t' ∧
      renamed trace = true ∧
      Disk.run none rehearsal.get t' = (some (.ok (some rehearsalCredentials)), t') := by
  have hpath : rehearsal.store.documentPath rehearsal.collection key =
      .ok ⟨"/020000000001/credentials.json".toList⟩ := by
    decide +kernel
  have hclear : rehearsal.Clear {} := by
    intro path h
    obtain rfl := Except.ok.inj (hpath.symm.trans h)
    exact Tree.clear_of_forall (by decide +kernel)
  have hget : Disk.run none rehearsal.get {} = (some (.ok none), {}) := by
    have hfound : rehearsal.found (Tree.read {} ⟨"/020000000001/credentials.json".toList⟩) =
        .ok none := by
      decide +kernel
    rw [run_get hpath, hfound]
  have hput : ((rehearsal.put "abcdef".toList rehearsalCredentials).run keeping.recorded 1
      ({}, [])).1 = some (.ok ()) := by
    decide +kernel
  have hrenamed : renamed ((rehearsal.put "abcdef".toList rehearsalCredentials).run
      keeping.recorded 1 ({}, [])).2.2 = true := by
    decide +kernel
  have hcut := cut_of_run hput
  obtain ⟨hfound, -⟩ := put_cut (by decide) Tree.valid_empty (fun _ => hclear) hget hcut
  rw [hrenamed] at hfound
  exact ⟨_, _, hcut, hrenamed, hfound⟩

/-- A store with a collection whose last name no directory can have. -/
def unclear : CredentialStore where
  store := { root := ⟨['/']⟩ }
  owner := String.ofList ('a' :: '/' :: List.replicate 256 'x')

/-- The path of the document there. -/
def unclearPath : Path :=
  ⟨'/' :: 'a' :: '/' :: (List.replicate 256 'x' ++ "/credentials.json".toList)⟩

theorem documentPath_unclear :
    unclear.store.documentPath unclear.collection key = .ok unclearPath := by
  rw [collection, unclear, String.toList_ofList]
  decide +kernel

/-- Where nothing is, no credentials are found there. -/
theorem run_get_unclear : Disk.run none unclear.get {} = (some (.ok none), {}) := by
  have hfound : unclear.found (Tree.read {} unclearPath) = .ok none := by
    decide +kernel
  rw [run_get documentPath_unclear, hfound]

/-- What storing credentials there does on a disk on which nothing is. -/
def unclearPut : Option (Except StoreError Unit) × (Tree × List (Exchange Disk)) :=
  (unclear.put "abcdef".toList rehearsalCredentials).run keeping.recorded 1 ({}, [])

/-- The first directory is made, and the next one cannot be. -/
theorem unclearPut_result : unclearPut.1 = some (.error (.file .nameTooLong)) := by
  rw [unclearPut, put_eq documentPath_unclear]
  decide +kernel

theorem run_get_unclearPut :
    Disk.run none unclear.get unclearPut.2.1 =
      (some (.error (.file .nameTooLong)), unclearPut.2.1) := by
  have hfound : unclear.found (unclearPut.2.1.read unclearPath) =
      .error (.file .nameTooLong) := by
    rw [unclearPut, put_eq documentPath_unclear]
    decide +kernel
  rw [run_get documentPath_unclear, hfound]

/-- A directory that is made on a way that cannot be followed to its end turns a document that is
missing into one that cannot be read. -/
theorem put_cut_unclear :
    ¬ ∀ (s : CredentialStore) (suffix : List Char) (new : Credentials) (old : Option Credentials)
        (t t' : Tree) (trace : List (Exchange Disk)), '/' ∉ suffix → t.Valid →
      Disk.run none s.get t = (some (.ok old), t) → Cut (s.put suffix new) t trace t' →
      Disk.run none s.get t' = (some (.ok (if renamed trace then some new else old)), t') := by
  intro h
  have hcut : Cut (unclear.put "abcdef".toList rehearsalCredentials) {} unclearPut.2.2
      unclearPut.2.1 := by
    have hresult := unclearPut_result
    unfold unclearPut at hresult ⊢
    exact cut_of_run hresult
  have hrenamed : renamed unclearPut.2.2 = false := by
    rw [unclearPut, put_eq documentPath_unclear]
    decide +kernel
  have hafter := h unclear "abcdef".toList rehearsalCredentials none {} _ _ (by decide)
    Tree.valid_empty run_get_unclear hcut
  rw [run_get_unclearPut, hrenamed] at hafter
  cases hafter

end UpdateAgent.CredentialStore
