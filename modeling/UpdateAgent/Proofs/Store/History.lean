import UpdateAgent.Proofs.Store.PowerCut

/-!
# Credentials that were stored one after the other

After any number of `put`s, of which any may have failed at any of its steps, the credentials of the
last one that came off are found, and if none came off, what was found before (`puts_get`). The
exception is the one that `put_cut` makes: a `put` that fails may make a directory on a way that
cannot be followed to its end (`puts_get_unclear`).
-/

namespace UpdateAgent.CredentialStore

open UpdateAgent.Path Program Disk Credentials

variable {s : CredentialStore} {t t' : Tree} {puts : List (Credentials × Except StoreError Unit)}

/-- What `put`s one after the other do to the tree, and how each of them ended. On the disk any step
may fail. -/
inductive Puts (s : CredentialStore) :
    Tree → List (Credentials × Except StoreError Unit) → Tree → Prop
  | nil (t : Tree) : Puts s t [] t
  | cons {t t' t'' : Tree} {suffix : List Char} {c : Credentials}
      {result : Except StoreError Unit} {trace : List (Exchange Disk)}
      {puts : List (Credentials × Except StoreError Unit)} (hsuffix : '/' ∉ suffix)
      (this : Runs (s.put suffix c) trace result) (steps : Steps t trace t')
      (rest : Puts s t' puts t'') : Puts s t ((c, result) :: puts) t''

/-- What a read of the document finds once these credentials were stored: the last of them. -/
def shown (found : Except FileError Bytes) (cs : List Credentials) : Except FileError Bytes :=
  cs.foldl (fun _ c => .ok c.document.bytes) found

theorem shown_of_getLast? {found : Except FileError Bytes} {cs : List Credentials}
    {c : Credentials} (h : cs.getLast? = some c) : shown found cs = .ok c.document.bytes := by
  obtain ⟨before, rfl⟩ := List.getLast?_eq_some_iff.mp h
  simp [shown]

section Document

variable {pre : List Char} (hpre : IsPrefix pre)
  (hpath : s.store.documentPath s.collection key = .ok ⟨pre ++ fileName⟩)

include hpre hpath

/-- A `put` that failed changes nothing of what a read of the document finds, and one that came off
shows the new credentials. -/
theorem shows_puts {found : Except FileError Bytes} (h : Shows t pre fileName found)
    (hputs : Puts s t puts t') : Shows t' pre fileName (shown found (stored puts)) := by
  induction hputs generalizing found with
  | nil t => exact h
  | @cons t t₁ t' suffix c result trace puts hsuffix this steps _ ih =>
    have hshows := shows_put hpre hpath hsuffix h this.began steps
    have hrenamed := renamed_put hpath this
    cases result with
    | error error =>
      rw [if_neg (by simp [hrenamed])] at hshows
      exact ih hshows
    | ok =>
      rw [if_pos (hrenamed.mpr rfl)] at hshows
      exact ih hshows

/-- The last `put` that came off is what a read finds, whatever was there before. -/
theorem read_puts (hvalid : t.Valid) (hputs : Puts s t puts t') {c : Credentials}
    (hlast : (stored puts).getLast? = some c) :
    t'.read ⟨pre ++ fileName⟩ = .ok c.document.bytes := by
  induction hputs with
  | nil t => cases hlast
  | @cons t t₁ t' suffix c' result trace puts hsuffix this steps rest ih =>
    have hvalid₁ := steps.valid hvalid
    cases result with
    | error error => exact ih hvalid₁ hlast
    | ok =>
      have hread := read_put hpre hpath hsuffix hvalid this steps
      have hshows : Shows t₁ pre fileName (.ok c'.document.bytes) := ⟨hvalid₁, hread, nofun⟩
      -- From the first `put` that came off, the document is there.
      have hread' := (shows_puts hpre hpath hshows rest).read
      have hshown : shown (t.read ⟨pre ++ fileName⟩) (c' :: stored puts) =
          .ok c.document.bytes := shown_of_getLast? hlast
      exact hread'.trans hshown

end Document

/-- Nothing is stored where there is no path for it. -/
theorem stored_of_no_path {error : StoreError}
    (hpath : s.store.documentPath s.collection key = .error error) (h : Puts s t puts t') :
    stored puts = [] := by
  induction h with
  | nil t => rfl
  | cons _ this _ _ ih =>
    rw [put, Store.write, hpath] at this
    obtain ⟨-, rfl⟩ := runs_pure.mp this
    exact ih

/-- The last `put` that came off is what is found. -/
theorem run_get_stored (hvalid : t.Valid) (h : Puts s t puts t') {c : Credentials}
    (hlast : (stored puts).getLast? = some c) :
    Disk.run none s.get t' = (some (.ok (some c)), t') := by
  rcases hpath : s.store.documentPath s.collection key with error | path
  · rw [stored_of_no_path hpath h] at hlast
    cases hlast
  · obtain ⟨pre, hpre, rfl⟩ := documentPath_eq hpath
    rw [run_get hpath, read_puts hpre hpath hvalid h hlast, found_document]

/-- `put`s that did not come off make no document. -/
theorem vacant_of_none_stored (hvalid : t.Valid) (hvacant : s.Vacant t) (h : Puts s t puts t')
    (hnone : stored puts = []) : s.Vacant t' := by
  induction h with
  | nil t => exact hvacant
  | @cons t t₁ t' suffix c result trace puts hsuffix this steps _ ih =>
    cases result with
    | error error => exact ih (steps.valid hvalid) (hvacant.put hvalid hsuffix this steps) hnone
    | ok => cases hnone

/-- Where there was no document at first, the credentials that are found are always those of the
last `put` that came off. -/
theorem run_get_iff (hvalid : t.Valid) (hvacant : s.Vacant t) (h : Puts s t puts t')
    (c : Credentials) :
    Disk.run none s.get t' = (some (.ok (some c)), t') ↔ (stored puts).getLast? = some c := by
  constructor
  · intro hget
    rcases hlast : (stored puts).getLast? with _ | c'
    · have hvacant' := vacant_of_none_stored hvalid hvacant h (List.getLast?_eq_none_iff.mp hlast)
      rcases hpath : s.store.documentPath s.collection key with error | path
      · rw [get_eq, hpath] at hget
        cases hget
      · rw [run_get hpath] at hget
        exact absurd (Option.some.inj (Prod.mk.inj hget).1) (hvacant'.ne_some hpath c)
    · rw [run_get_stored hvalid h hlast] at hget
      cases hget
      rfl
  · exact run_get_stored hvalid h

/-- After any `put`s, of which some may have failed, the credentials of the last one that came off
are found. If none came off, what is found is what was found before; where that was nothing, the way
to the document has to be clear. -/
theorem puts_get (hvalid : t.Valid) (h : Puts s t puts t') :
    (∀ c, (stored puts).getLast? = some c →
      Disk.run none s.get t' = (some (.ok (some c)), t')) ∧
    (stored puts = [] → (Disk.run none s.get t = (some (.ok none), t) → s.Clear t) →
      ∃ result, Disk.run none s.get t = (some result, t) ∧
        Disk.run none s.get t' = (some result, t')) := by
  refine ⟨fun c => run_get_stored hvalid h, fun hnone hclear => ?_⟩
  rcases hpath : s.store.documentPath s.collection key with error | path
  · have hget (t : Tree) : Disk.run none s.get t = (some (.error error), t) := by
      rw [get_eq, hpath]
      rfl
    exact ⟨_, hget t, hget t'⟩
  · obtain ⟨pre, hpre, rfl⟩ := documentPath_eq hpath
    rw [run_get hpath] at hclear
    have hshows : Shows t pre fileName (t.read ⟨pre ++ fileName⟩) := by
      refine shows_read hpre hpath hvalid fun hread => hclear ?_
      rw [hread]
      rfl
    have hread := (shows_puts hpre hpath hshows h).read
    rw [hnone] at hread
    refine ⟨_, run_get hpath t, ?_⟩
    rw [run_get hpath, hread]
    rfl

/-- On a disk that keeps a tree, a `put` is one of these. -/
theorem puts_of_run {suffix : List Char} (hsuffix : '/' ∉ suffix) {c : Credentials}
    {result : Except StoreError Unit} {turns : Nat}
    (h : ((s.put suffix c).run keeping.recorded turns (t, [])).1 = some result)
    (hrest : Puts s ((s.put suffix c).run keeping.recorded turns (t, [])).2.1 puts t') :
    Puts s t ((c, result) :: puts) t' :=
  have ⟨hruns, hanswered⟩ := runs_of_run h
  .cons hsuffix hruns (steps_of_answered hanswered) hrest

/-- Other credentials, which are not stored. -/
def otherCredentials : Credentials where
  deviceId := "other"
  username := "\"quoted\""
  password := "\\"
  clientId := ""

/-- A suffix with which no file can be staged. -/
def longSuffix : List Char :=
  List.replicate 256 'x'

theorem puts_get_rehearsed :
    ∃ t', Puts rehearsal {} [(rehearsalCredentials, .ok ()),
        (otherCredentials, .error (.file .nameTooLong))] t' ∧
      Disk.run none rehearsal.get t' = (some (.ok (some rehearsalCredentials)), t') := by
  have hfirst : ((rehearsal.put "abcdef".toList rehearsalCredentials).run keeping.recorded 1
      ({}, [])).1 = some (.ok ()) := by
    decide +kernel
  have hsecond : ((rehearsal.put longSuffix otherCredentials).run keeping.recorded 1
      (((rehearsal.put "abcdef".toList rehearsalCredentials).run keeping.recorded 1
        ({}, [])).2.1, [])).1 = some (.error (.file .nameTooLong)) := by
    decide +kernel
  have hlong : '/' ∉ longSuffix := fun h => absurd (List.eq_of_mem_replicate h) (by decide)
  have hputs := puts_of_run (by decide) hfirst (puts_of_run hlong hsecond (.nil _))
  exact ⟨_, hputs, (puts_get Tree.valid_empty hputs).1 _ rfl⟩

/-- A `put` that failed can make a document that is missing one that cannot be read. -/
theorem puts_get_unclear :
    ¬ ∀ (s : CredentialStore) (t t' : Tree)
        (puts : List (Credentials × Except StoreError Unit)), t.Valid → Puts s t puts t' →
      stored puts = [] → ∃ result, Disk.run none s.get t = (some result, t) ∧
        Disk.run none s.get t' = (some result, t') := by
  intro h
  have hputs : Puts unclear {} [(rehearsalCredentials, .error (.file .nameTooLong))]
      unclearPut.2.1 := by
    have hresult := unclearPut_result
    unfold unclearPut at hresult ⊢
    exact puts_of_run (by decide) hresult (.nil _)
  obtain ⟨result, hbefore, hafter⟩ := h unclear {} _ _ Tree.valid_empty hputs rfl
  rw [run_get_unclear] at hbefore
  rw [run_get_unclearPut] at hafter
  cases hbefore
  cases hafter

end UpdateAgent.CredentialStore
