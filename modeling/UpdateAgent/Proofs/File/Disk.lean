import UpdateAgent.Proofs.Program
import UpdateAgent.Proofs.File.Valid
import UpdateAgent.File.Disk

/-!
# Power cuts

`Steps` is what the calls of a program do to the tree on a disk on which any of them may fail, and
`Cut` what is left of it when the power goes: the steps so far, and of a write that was under way
any first part. What each call does to the tree is said once (`step_create`, `step_rename`).
Whatever is done, every entry still lies in a directory (`Steps.valid`).
-/

namespace UpdateAgent.Disk

open UpdateAgent.Path Program

/-! ## Disks on which steps fail -/

/-- The reply says that the step failed. -/
def Failed : (c : DiskCall) → DiskReply c → Prop
  | .makeDirectory _, result => ∃ error, result = .error error
  | .isDirectory _, found => found = false
  | .create _, result => ∃ error, result = .error error
  | .write .., result => ∃ error, result = .error error
  | .sync _, result => ∃ error, result = .error error
  | .rename .., result => ∃ error, result = .error error
  | .remove _, result => ∃ error, result = .error error
  | .syncDirectory _, result => ∃ error, result = .error error
  | .read _, content => ∃ error, content = .error error

/-- What a step does to the tree. It is done as on a disk that keeps a tree, or fails and leaves the
tree as it was. Of a write that fails, any first part may be in the file. -/
inductive Step : Tree → Exchange Disk → Tree → Prop
  | done (t : Tree) (c : DiskCall) : Step t ⟨c, (answer none c t).1⟩ (answer none c t).2
  | failed (t : Tree) {c : DiskCall} {r : DiskReply c} (h : Failed c r) : Step t ⟨c, r⟩ t
  | torn (t : Tree) (path : Path) (content : Bytes) (count : Nat) (error : FileError) :
      Step t ⟨.write path content, .error error⟩ (t.write path (content.take count))

/-- What steps one after the other do to the tree. -/
inductive Steps : Tree → List (Exchange Disk) → Tree → Prop
  | nil (t : Tree) : Steps t [] t
  | cons {t t' t'' : Tree} {e : Exchange Disk} {trace : List (Exchange Disk)} (this : Step t e t')
      (rest : Steps t' trace t'') : Steps t (e :: trace) t''

/-- What a power cut in the course of a program leaves, and the replies that the program had got by
then. Of a write that was under way, any first part may be in the file; every other step is done or
not. -/
inductive Cut {α : Type} (p : Program Disk α) (t : Tree) : List (Exchange Disk) → Tree → Prop
  | between {trace : List (Exchange Disk)} {t' : Tree} (began : Began p trace)
      (steps : Steps t trace t') : Cut p t trace t'
  | within {trace : List (Exchange Disk)} {t' : Tree} {path : Path} {content : Bytes}
      (asks : Asks p trace (.write path content)) (steps : Steps t trace t') (count : Nat) :
      Cut p t trace (t'.write path (content.take count))

/-- A file was moved. -/
def isRenamed : Exchange Disk → Bool
  | ⟨.rename .., .ok ()⟩ => true
  | _ => false

/-- Among the steps, a file was moved. -/
def renamed (trace : List (Exchange Disk)) : Bool :=
  trace.any isRenamed

theorem renamed_append (trace trace' : List (Exchange Disk)) :
    renamed (trace ++ trace') = (renamed trace || renamed trace') :=
  List.any_append

section Steps

variable {t t' : Tree} {trace trace' : List (Exchange Disk)} {path : Path}

theorem steps_nil (h : Steps t [] t') : t' = t := by
  cases h
  rfl

theorem steps_cons {e : Exchange Disk} (h : Steps t (e :: trace) t') :
    ∃ t₁, Step t e t₁ ∧ Steps t₁ trace t' := by
  cases h with
  | cons this rest => exact ⟨_, this, rest⟩

theorem steps_append (h : Steps t (trace ++ trace') t') :
    ∃ t₁, Steps t trace t₁ ∧ Steps t₁ trace' t' := by
  induction trace generalizing t with
  | nil => exact ⟨t, .nil t, h⟩
  | cons e trace ih =>
    obtain ⟨t₁, hthis, hrest⟩ := steps_cons h
    obtain ⟨t₂, htrace, htrace'⟩ := ih hrest
    exact ⟨t₂, .cons hthis htrace, htrace'⟩

theorem Steps.concat {e : Exchange Disk} {t'' : Tree} (h : Steps t trace t') (he : Step t' e t'') :
    Steps t (trace ++ [e]) t'' := by
  induction h with
  | nil t => exact .cons he (.nil _)
  | cons this _ ih => exact .cons this (ih he)

/-- A write that the power cut short is one that failed before the cut. -/
theorem Cut.began {α : Type} {p : Program Disk α} (h : Cut p t trace t') :
    ∃ made, Began p made ∧ Steps t made t' ∧ renamed made = renamed trace := by
  cases h with
  | between began steps => exact ⟨trace, began, steps, rfl⟩
  | within asks steps count =>
    refine ⟨_, asks.began (.error .invalid), steps.concat (.torn _ _ _ count _), ?_⟩
    simp [renamed, isRenamed]

/-- A disk that keeps a tree, as surroundings. -/
def keeping : Surroundings Disk Tree := fun c t =>
  let (reply, t) := answer none c t
  (some reply, t)

theorem steps_of_answered (h : Answered keeping t trace t') : Steps t trace t' := by
  induction h with
  | nil t => exact .nil t
  | cons this _ ih =>
    cases this
    exact .cons (.done _ _) ih

theorem steps_of_run {α : Type} {p : Program Disk α} {turns : Nat} {a : α}
    (h : p.run keeping.recorded turns (t, []) = (some a, (t', trace))) :
    Runs p trace a ∧ Steps t trace t' := by
  obtain ⟨made, hruns, hanswered, rfl⟩ := runs_of_run' h
  exact ⟨hruns, steps_of_answered hanswered⟩

/-- The power may go when a program has just come to its end. -/
theorem cut_of_run {α : Type} {p : Program Disk α} {turns : Nat} {a : α}
    (h : (p.run keeping.recorded turns (t, [])).1 = some a) :
    Cut p t (p.run keeping.recorded turns (t, [])).2.2 (p.run keeping.recorded turns (t, [])).2.1 :=
  have ⟨hruns, hanswered⟩ := runs_of_run h
  .between hruns.began (steps_of_answered hanswered)

/-! ## Every entry lies in a directory -/

theorem changed_valid (hvalid : t.Valid) {result : Except FileError Tree}
    (h : ∀ t', result = .ok t' → t'.Valid) : (changed t result).2.Valid := by
  rcases result with _ | t'
  · exact hvalid
  · exact h t' rfl

/-- Whatever is done on a disk, every entry lies in a directory. -/
theorem Step.valid {e : Exchange Disk} (h : Step t e t') (hvalid : t.Valid) : t'.Valid := by
  cases h with
  | done c =>
    match c with
    | .makeDirectory _ => exact changed_valid hvalid fun _ => Tree.valid_makeDirectory hvalid
    | .isDirectory _ => exact hvalid
    | .create _ => exact changed_valid hvalid fun _ => Tree.valid_create hvalid
    | .write _ content => exact Tree.valid_write hvalid content
    | .sync _ => exact hvalid
    | .rename _ _ => exact changed_valid hvalid fun _ => Tree.valid_rename hvalid
    | .remove _ => exact changed_valid hvalid fun _ => Tree.valid_remove hvalid
    | .syncDirectory _ => exact hvalid
    | .read _ => exact hvalid
  | failed _ => exact hvalid
  | torn => exact Tree.valid_write hvalid _

theorem Steps.valid (h : Steps t trace t') (hvalid : t.Valid) : t'.Valid := by
  induction h with
  | nil t => exact hvalid
  | cons this _ ih => exact ih (this.valid hvalid)

/-! ## What each step does -/

theorem changed_cases (t : Tree) (result : Except FileError Tree) :
    (∃ error, (changed t result).1 = .error error ∧ (changed t result).2 = t) ∨
      ((changed t result).1 = .ok () ∧ result = .ok (changed t result).2) := by
  rcases result with error | t'
  · exact .inl ⟨error, rfl, rfl⟩
  · exact .inr ⟨rfl, rfl⟩

theorem step_makeDirectory {result : Except FileError Unit}
    (h : Step t ⟨.makeDirectory path, result⟩ t') :
    (∃ error, result = .error error ∧ t' = t) ∨
      (result = .ok () ∧ t.makeDirectory path = .ok t') := by
  cases h with
  | done => exact changed_cases t _
  | failed hfailed =>
    obtain ⟨error, rfl⟩ := hfailed
    exact .inl ⟨error, rfl, rfl⟩

theorem step_isDirectory {found : Bool} (h : Step t ⟨.isDirectory path, found⟩ t') : t' = t := by
  cases h <;> rfl

theorem step_create {result : Except FileError Unit} (h : Step t ⟨.create path, result⟩ t') :
    (∃ error, result = .error error ∧ t' = t) ∨ (result = .ok () ∧ t.create path = .ok t') := by
  cases h with
  | done => exact changed_cases t _
  | failed hfailed =>
    obtain ⟨error, rfl⟩ := hfailed
    exact .inl ⟨error, rfl, rfl⟩

theorem step_write {content : Bytes} {result : Except FileError Unit}
    (h : Step t ⟨.write path content, result⟩ t') :
    (∃ error, result = .error error ∧ (t' = t ∨ ∃ count, t' = t.write path (content.take count))) ∨
      (result = .ok () ∧ t' = t.write path content) := by
  cases h with
  | done => exact .inr ⟨rfl, rfl⟩
  | failed hfailed =>
    obtain ⟨error, rfl⟩ := hfailed
    exact .inl ⟨error, rfl, .inl rfl⟩
  | torn _ _ count error => exact .inl ⟨error, rfl, .inr ⟨count, rfl⟩⟩

theorem step_sync {result : Except FileError Unit} (h : Step t ⟨.sync path, result⟩ t') :
    t' = t := by
  cases h <;> rfl

theorem step_rename {source : Path} {result : Except FileError Unit}
    (h : Step t ⟨.rename source path, result⟩ t') :
    (∃ error, result = .error error ∧ t' = t) ∨
      (result = .ok () ∧ t.rename source path = .ok t') := by
  cases h with
  | done => exact changed_cases t _
  | failed hfailed =>
    obtain ⟨error, rfl⟩ := hfailed
    exact .inl ⟨error, rfl, rfl⟩

theorem step_remove {result : Except FileError Unit} (h : Step t ⟨.remove path, result⟩ t') :
    (∃ error, result = .error error ∧ t' = t) ∨ (result = .ok () ∧ t.remove path = .ok t') := by
  cases h with
  | done => exact changed_cases t _
  | failed hfailed =>
    obtain ⟨error, rfl⟩ := hfailed
    exact .inl ⟨error, rfl, rfl⟩

theorem step_syncDirectory {result : Except FileError Unit}
    (h : Step t ⟨.syncDirectory path, result⟩ t') : t' = t := by
  cases h <;> rfl

end Steps

end UpdateAgent.Disk
