import UpdateAgent.Proofs.Store.Path
import UpdateAgent.Proofs.Text.Utf8

/-!
# Documents that are written

A document is written in two parts: directories are made above it, and then its file is replaced
(`runs_write`). On disks on which every step may fail, the file is what it was until the staged one
is moved into its place (`shows_write`), every other entry is spared (`write_spares`), and the move
is what a success stands for (`renamed_write`).
-/

namespace UpdateAgent.Store

open UpdateAgent.Path Program Disk

variable {store : Store} {collection path : Path} {key : String} {document : Json.Value}
  {suffix pre : List Char} {m n : Name} {t t' : Tree} {trace : List (Exchange Disk)}

/-! ## Reading -/

/-- What a document is, by what a read of its file comes to. -/
def found {α : Type} (store : Store) (decode : Bytes → Option α) :
    Except FileError Bytes → Except StoreError (Option α)
  | .error (.os 2) => .ok none
  | .error error => .error (.file error)
  | .ok content =>
    match Utf8.decode? content with
    | none => .error (.file .notText)
    | some text =>
      match decode (Utf8.encode text) with
      | none => .error (.document (store.complaint (Utf8.encode text)))
      | some a => .ok (some a)

section Read

variable {α : Type} {decode : Bytes → Option α}

theorem found_error {error : FileError} (h : error ≠ .notFound) :
    store.found decode (.error error) = .error (.file error) := by
  rw [found]
  exact h

/-- There is no document only if there is no file. -/
theorem found_eq_ok {content : Except FileError Bytes} {old : Option α}
    (h : store.found decode content = .ok old) :
    (content = .error .notFound ∧ old = none) ∨ ∃ bytes, content = .ok bytes ∧ old.isSome := by
  rcases content with error | bytes
  · by_cases herror : error = .notFound
    · subst herror
      cases h
      exact .inl ⟨rfl, rfl⟩
    · rw [found_error herror] at h
      cases h
  · refine .inr ⟨bytes, rfl, ?_⟩
    simp only [found] at h
    split at h
    · cases h
    · split at h <;> cases h
      rfl

/-- A document is loaded by a read of its file, if it has a path. -/
theorem read_eq (store : Store) (decode : Bytes → Option α) (collection : Path) (key : String) :
    store.read decode collection key = match store.documentPath collection key with
      | .error error => pure (.error error)
      | .ok path => Disk.read path >>= fun content => pure (store.found decode content) := by
  rw [read]
  rcases store.documentPath collection key with _ | path
  · rfl
  · simp only [readText, bind_assoc]
    refine bind_congr fun content => ?_
    rcases content with error | content
    · simp only [pure_bind]
      by_cases herror : error = .notFound
      · rw [herror]
        rfl
      · rw [found_error herror]
        split
        · rename_i heq
          exact absurd (Except.error.inj heq) herror
        · rename_i heq
          rw [Except.error.inj heq]
        · rename_i heq
          cases heq
    · simp only [found]
      rcases Utf8.decode? content with _ | text
      · rfl
      · simp only [pure_bind]
        rcases decode (Utf8.encode text) with _ | _ <;> rfl

theorem run_read (hpath : store.documentPath collection key = .ok path) (t : Tree) :
    Disk.run none (store.read decode collection key) t =
      (some (store.found decode (t.read path)), t) := by
  rw [read_eq, hpath]
  rfl

theorem run_read_of_no_path {error : StoreError}
    (hpath : store.documentPath collection key = .error error) (t : Tree) :
    Disk.run none (store.read decode collection key) t = (some (.error error), t) := by
  rw [read_eq, hpath]
  rfl

end Read

/-! ## Writing -/

/-- A document is written by making the directories above its file and replacing it, if it has a
path. -/
theorem write_eq (store : Store) (suffix : List Char) (collection : Path) (key : String)
    (document : Json.Value) :
    store.write suffix collection key document =
      match store.documentPath collection key with
      | .error error => pure (.error error)
      | .ok path => (match path.parent? with
        | some parent => makeDirectories parent
        | none => pure (.ok ())) >>= fun ready => match ready with
          | .error error => pure (.error (.file error))
          | .ok () =>
            replace path suffix document.bytes >>= fun result => pure (ofFile result) := by
  rw [write]
  rcases store.documentPath collection key with _ | path
  · rfl
  · dsimp only
    cases path.parent? <;> rfl

section Piece

variable (hpre : IsPrefix pre) (hn : IsPiece n)
  (hpath : store.documentPath collection key = .ok ⟨pre ++ n⟩)

include hpre hn hpath

/-- What a write has done so far: directories were made on the way, and the file may have begun to
be replaced. -/
theorem began_write (h : Began (store.write suffix collection key document) trace) :
    ∃ first last, trace = first ++ last ∧ (∀ e ∈ first, OnWay (names pre) e.call) ∧
      Began (replace ⟨pre ++ n⟩ suffix document.bytes) last := by
  rw [write_eq, hpath] at h
  have hway := parent_onWay hpre hn
  rcases began_bind h with hmade | ⟨first, ready, rest, hfirst, hrest, rfl⟩
  · exact ⟨trace, [], (List.append_nil trace).symm, fun _ he => hmade.callsOnly hway he,
      began_nil _⟩
  · refine ⟨first, rest, rfl, fun _ he => hfirst.began.callsOnly hway he, ?_⟩
    match ready with
    | .error error =>
      obtain rfl := began_pure.mp hrest
      exact began_nil _
    | .ok () => exact began_bind_pure hrest

/-- What a write has done in the end. -/
theorem runs_write {result : Except StoreError Unit}
    (h : Runs (store.write suffix collection key document) trace result) :
    ∃ first last, trace = first ++ last ∧ (∀ e ∈ first, OnWay (names pre) e.call) ∧
      ((last = [] ∧ ∃ error, result = .error (.file error)) ∨
        ∃ replaced, Runs (replace ⟨pre ++ n⟩ suffix document.bytes) last replaced ∧
          result = ofFile replaced) := by
  rw [write_eq, hpath] at h
  obtain ⟨first, ready, rest, hfirst, hrest, rfl⟩ := runs_bind.mp h
  refine ⟨first, rest, rfl, fun _ he => hfirst.began.callsOnly (parent_onWay hpre hn) he, ?_⟩
  match ready with
  | .error error =>
    obtain ⟨rfl, rfl⟩ := runs_pure.mp hrest
    exact .inl ⟨rfl, error, rfl⟩
  | .ok () =>
    obtain ⟨made, replaced, last, hreplace, hpure, rfl⟩ := runs_bind.mp hrest
    obtain ⟨rfl, rfl⟩ := runs_pure.mp hpure
    rw [List.append_nil]
    exact .inr ⟨replaced, hreplace, rfl⟩

/-- The file was moved into its place if the write came off, and only then. -/
theorem renamed_write {result : Except StoreError Unit}
    (h : Runs (store.write suffix collection key document) trace result) :
    renamed trace = true ↔ result = .ok () := by
  obtain ⟨first, last, rfl, hway, ⟨rfl, error, rfl⟩ | ⟨replaced, hreplace, rfl⟩⟩ :=
    runs_write hpre hn hpath h
  · rw [List.append_nil, renamed_onWay hway]
    simp
  · rw [renamed_append, renamed_onWay hway, Bool.false_or, renamed_replace hreplace]
    cases replaced <;> simp [ofFile]

end Piece

/-- Behind the first directory that is missing on the way to the document, no name leads back up or
is too long. -/
def Clear (store : Store) (collection : Path) (key : String) (t : Tree) : Prop :=
  ∀ path, store.documentPath collection key = .ok path → t.Clear (names path.chars)

/-- Where the document is not missing, or the way to it is clear, what a read of the document finds
stays while directories are made. -/
theorem shows_read (hpre : IsPrefix pre) (hn : IsPiece n)
    (hpath : store.documentPath collection key = .ok ⟨pre ++ n⟩) (hvalid : t.Valid)
    (hclear : t.read ⟨pre ++ n⟩ = .error .notFound → store.Clear collection key t) :
    Shows t pre n (t.read ⟨pre ++ n⟩) := by
  refine ⟨hvalid, rfl, fun hread => ?_⟩
  have hway := hclear hread _ hpath
  rw [names_prefix_append hpre, names_piece hn] at hway
  exact hway

/-- The file of a document has this name behind a prefix, and is staged under that one. -/
structure Beside (suffix pre : List Char) (m n : Name) : Prop where
  isPrefix : IsPrefix pre
  staged : IsName m
  name : IsName n
  ne : m ≠ n
  staging : Path.staging ⟨pre ++ n⟩ suffix = ⟨pre ++ m⟩

section Beside

variable (hbeside : Beside suffix pre m n)
  (hpath : store.documentPath collection key = .ok ⟨pre ++ n⟩)

include hbeside hpath

/-- In the course of a write the tree is what making directories on the way has made of it, but for
what is replaced. -/
theorem write_cut (hvalid : t.Valid)
    (h : Began (store.write suffix collection key document) trace) (hsteps : Steps t trace t') :
    ∃ t₁, (∀ place, Tree.Spared (names pre ++ [n]) t t₁ place) ∧
      Replacing t₁ pre m n document.bytes (renamed trace) t' := by
  obtain ⟨first, last, rfl, hway, hlast⟩ :=
    began_write hbeside.isPrefix hbeside.name.isPiece hpath h
  obtain ⟨t₁, hsteps₁, hsteps₂⟩ := steps_append hsteps
  refine ⟨t₁, steps_spared hway hsteps₁ n, ?_⟩
  rw [renamed_append, renamed_onWay hway, Bool.false_or]
  exact replace_cut hbeside.isPrefix hbeside.staged hbeside.name hbeside.ne (hsteps₁.valid hvalid)
    hbeside.staging hlast hsteps₂

/-- In the course of a write, a read of the document finds what it found before, or the new document
once that was moved into its place. -/
theorem shows_write {content : Except FileError Bytes} (h : Shows t pre n content)
    (hbegan : Began (store.write suffix collection key document) trace)
    (hsteps : Steps t trace t') :
    Shows t' pre n (if renamed trace then .ok document.bytes else content) := by
  obtain ⟨first, last, rfl, hway, hlast⟩ :=
    began_write hbeside.isPrefix hbeside.name.isPiece hpath hbegan
  obtain ⟨t₁, hsteps₁, hsteps₂⟩ := steps_append hsteps
  rw [renamed_append, renamed_onWay hway, Bool.false_or]
  exact (h.steps hbeside.isPrefix hbeside.name.isPiece hway hsteps₁).replace hbeside.isPrefix
    hbeside.staged hbeside.name hbeside.ne hbeside.staging hlast hsteps₂

/-- After a write that came off the document is there, whatever was found before. -/
theorem read_write (hvalid : t.Valid)
    (h : Runs (store.write suffix collection key document) trace (.ok ()))
    (hsteps : Steps t trace t') : t'.read ⟨pre ++ n⟩ = .ok document.bytes := by
  obtain ⟨t₁, -, hreplacing⟩ := write_cut hbeside hpath hvalid h.began hsteps
  rw [(renamed_write hbeside.isPrefix hbeside.name.isPiece hpath h).mpr rfl] at hreplacing
  exact hreplacing.read hbeside.isPrefix hbeside.name hbeside.ne

end Beside

end UpdateAgent.Store
