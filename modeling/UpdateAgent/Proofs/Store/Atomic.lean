import UpdateAgent.Proofs.Store.Write

/-!
# Writes that are all or nothing

A write that fails, at whatever step, leaves every entry as it was but for new directories on the
way to the document; a write that comes off changes the document and nothing else (`write_atomic`).
In the course of it no other document changes, even if the staged file takes the place of another.
-/

namespace UpdateAgent.Store

open UpdateAgent.Path Program Disk

variable {store : Store} {collection path : Path} {key : String} {document : Json.Value}
  {suffix pre : List Char} {m n : Name} {t t' : Tree} {trace : List (Exchange Disk)}

/-- The documents of a store are staged beside their files. -/
theorem beside_document (hsuffix : Drawn suffix) (hpre : IsPrefix pre) {stem : List Char}
    (h : IsStem stem) : Beside suffix pre (stagedName stem suffix) (documentName stem) where
  isPrefix := hpre
  staged := isName_stagedName h hsuffix.no_slash
  name := isName_documentName h
  ne := stagedName_ne_documentName hsuffix stem stem
  staging := staging_document hpre h suffix

/-- The path of a document leads to its file, or to a directory above. -/
theorem documentPath_beside (h : store.documentPath collection key = .ok path)
    (hsuffix : Drawn suffix) :
    ∃ pre, IsPrefix pre ∧ ((∃ stem, path = ⟨pre ++ documentName stem⟩ ∧
      Beside suffix pre (stagedName stem suffix) (documentName stem)) ∨
        path = ⟨pre ++ ['.', '.']⟩) := by
  obtain ⟨pre, hpre, ⟨stem, hstem, rfl⟩ | rfl⟩ := documentPath_cases h
  · exact ⟨pre, hpre, .inl ⟨stem, rfl, beside_document hsuffix hpre hstem⟩⟩
  · exact ⟨pre, hpre, .inr rfl⟩

/-! ## Where no file can be -/

section Up

variable (hpre : IsPrefix pre)

include hpre

/-- What is no file cannot be replaced. -/
theorem replace_up {content : Bytes}
    (hbegan : Began (replace ⟨pre ++ ['.', '.']⟩ suffix content) trace)
    (hsteps : Steps t trace t') : t' = t ∧ renamed trace = false := by
  have hstaging : Path.staging ⟨pre ++ ['.', '.']⟩ suffix = ⟨pre ++ ['.', '.']⟩ :=
    withExtension_up hpre _
  rw [replace, hstaging] at hbegan
  rcases began_request_bind hbegan with rfl | ⟨created, rest, hrest, rfl⟩
  · exact ⟨steps_nil hsteps, rfl⟩
  · obtain ⟨t₁, hcreate, hsteps₁⟩ := steps_cons hsteps
    rcases step_create hcreate with ⟨error, rfl, rfl⟩ | ⟨rfl, hcreated⟩
    · obtain rfl := began_pure.mp hrest
      exact ⟨steps_nil hsteps₁, rfl⟩
    · exact absurd hcreated (Tree.create_up hpre)

variable (hpath : store.documentPath collection key = .ok ⟨pre ++ ['.', '.']⟩)

include hpath

/-- All that a write does then is to make directories. -/
theorem write_up (h : Began (store.write suffix collection key document) trace)
    (hsteps : Steps t trace t') :
    renamed trace = false ∧ ∃ made, (∀ e ∈ made, OnWay (names pre) e.call) ∧ Steps t made t' := by
  obtain ⟨first, last, rfl, hway, hlast⟩ := began_write hpre isPiece_up hpath h
  obtain ⟨t₁, hsteps₁, hsteps₂⟩ := steps_append hsteps
  obtain ⟨rfl, hrenamed⟩ := replace_up hpre hlast hsteps₂
  rw [renamed_append, renamed_onWay hway, hrenamed]
  exact ⟨rfl, first, hway, hsteps₁⟩

/-- So every file is read as before. -/
theorem read_of_up (h : Began (store.write suffix collection key document) trace)
    (hsteps : Steps t trace t') {pre' : List Char} {n' : Name} (hpre' : IsPrefix pre')
    (hn' : IsName n') {content : Bytes} (hread : t.read ⟨pre' ++ n'⟩ = .ok content) :
    t'.read ⟨pre' ++ n'⟩ = .ok content := by
  obtain ⟨-, made, hway, hmade⟩ := write_up hpre hpath h hsteps
  have hspared := steps_spared hway hmade ['.', '.']
  obtain ⟨d, hreaches, hentry⟩ := Tree.reaches_of_read hpre' hn' hread
  rw [(hreaches.of_keeps (Tree.keeps_of_spared hspared)).read hpre' hn', Tree.contentAt,
    (hspared _).keeps hentry]

end Up

/-! ## What is spared -/

section Beside

variable (hbeside : Beside suffix pre m n)
  (hpath : store.documentPath collection key = .ok ⟨pre ++ n⟩) (hvalid : t.Valid)

include hbeside hpath hvalid

/-- A file that is neither the document nor the staged one is read as before. -/
theorem read_other (h : Began (store.write suffix collection key document) trace)
    (hsteps : Steps t trace t') {pre' : List Char} {n' : Name} (hpre' : IsPrefix pre')
    (hn' : IsName n') (hne : n' ≠ m)
    (hplace : Tree.resolve (names (pre' ++ n')) ≠ Tree.resolve (names (pre ++ n)))
    {content : Bytes} (hread : t.read ⟨pre' ++ n'⟩ = .ok content) :
    t'.read ⟨pre' ++ n'⟩ = .ok content := by
  obtain ⟨t₁, hspared, hreplacing⟩ := write_cut hbeside hpath hvalid h hsteps
  obtain ⟨d, hreaches, hentry⟩ := Tree.reaches_of_read hpre' hn' hread
  have hreaches := (hreaches.of_keeps (Tree.keeps_of_spared hspared)).of_keeps hreplacing.keeps
  have hresolve : Tree.resolve (names (pre' ++ n')) = d ++ [n'] := by
    rw [Tree.resolve_child hpre' hn', ← Tree.walk_eq_resolve hreaches.walk]
  have hstaged : d ++ [n'] ≠ Tree.resolve (names (pre ++ m)) := by
    rw [Tree.resolve_child hbeside.isPrefix hbeside.staged]
    exact fun heq => hne (List.singleton_inj.mp (List.append_inj' heq rfl).2)
  have hentry' : t'.entry? (d ++ [n']) = some (.file content) := by
    rw [hresolve] at hplace
    cases hmoved : renamed trace with
    | false =>
      rw [hmoved] at hreplacing
      rw [hreplacing.entry?_of_not_moved hbeside.isPrefix hbeside.staged hstaged]
      exact (hspared _).keeps hentry
    | true =>
      rw [hmoved] at hreplacing
      obtain ⟨-, -, hsame⟩ :=
        hreplacing.entries_of_moved hbeside.isPrefix hbeside.staged hbeside.name
      rw [hsame _ hstaged hplace]
      exact (hspared _).keeps hentry
  rw [hreaches.read hpre' hn', Tree.contentAt, hentry']

variable (hfree : t.entry? (Tree.resolve (names (pre ++ m))) = none)

include hfree

/-- After a write that failed and has removed what it staged, every entry is spared. -/
theorem spared_of_error {error : StoreError}
    (h : Runs (store.write suffix collection key document) trace (.error error))
    (hsteps : Steps t trace t') (hremoved : ∀ p r, ⟨.remove p, r⟩ ∈ trace → r = .ok ())
    (place : Place) : Tree.Spared (names (pre ++ n)) t t' place := by
  rw [names_prefix_append hbeside.isPrefix, names_name hbeside.name]
  obtain ⟨first, last, rfl, hway, hlast⟩ :=
    runs_write hbeside.isPrefix hbeside.name.isPiece hpath h
  obtain ⟨t₁, hsteps₁, hsteps₂⟩ := steps_append hsteps
  have hspared := steps_spared hway hsteps₁ n
  rcases hlast with ⟨rfl, -⟩ | ⟨replaced, hreplace, hresult⟩
  · rw [steps_nil hsteps₂]
    exact hspared place
  · obtain ⟨error', rfl⟩ : ∃ error', replaced = .error error' := by
      cases replaced with
      | error error' => exact ⟨error', rfl⟩
      | ok => cases hresult
    have hremoved : ∀ p r, ⟨.remove p, r⟩ ∈ last → r = .ok () := fun p r he =>
      hremoved p r (List.mem_append_right _ he)
    rcases replace_ends hreplace hsteps₂ hremoved with rfl | ⟨t₂, hlast⟩
    · exact hspared place
    · rw [hbeside.staging] at hlast
      obtain ⟨d, m', hleads, -, rfl⟩ := Tree.remove_ok hlast
      have hreplacing := replace_cut hbeside.isPrefix hbeside.staged hbeside.name hbeside.ne
        (hsteps₁.valid hvalid) hbeside.staging hreplace.began hsteps₂
      have hrenamed : renamed last = false := by
        rw [← Bool.not_eq_true, renamed_replace hreplace]
        exact nofun
      rw [hrenamed] at hreplacing
      by_cases hplace : place = Tree.resolve (names (pre ++ m))
      · -- The staged file is gone, and there was none before.
        have hstaged : Tree.resolve (names (pre ++ m)) = d ++ [m'] := hleads.resolve
        subst hplace
        rw [Tree.Spared, hfree, hstaged, Tree.entry?_erase_self (by simp)]
        exact .inl rfl
      · exact (hspared place).trans
          (.inl (hreplacing.entry?_of_not_moved hbeside.isPrefix hbeside.staged hplace))

/-- After a write that came off, the document is in its file, nothing is staged, and every other
entry is spared. -/
theorem spared_of_ok (h : Runs (store.write suffix collection key document) trace (.ok ()))
    (hsteps : Steps t trace t') :
    t'.entry? (Tree.resolve (names (pre ++ n))) = some (.file document.bytes) ∧
      t'.entry? (Tree.resolve (names (pre ++ m))) = none ∧
      ∀ place, place ≠ Tree.resolve (names (pre ++ n)) →
        Tree.Spared (names (pre ++ n)) t t' place := by
  obtain ⟨t₁, hspared, hreplacing⟩ := write_cut hbeside hpath hvalid h.began hsteps
  rw [(renamed_write hbeside.isPrefix hbeside.name.isPiece hpath h).mpr rfl] at hreplacing
  obtain ⟨hgone, hthere, hsame⟩ :=
    hreplacing.entries_of_moved hbeside.isPrefix hbeside.staged hbeside.name
  refine ⟨hthere, hgone, fun place hplace => ?_⟩
  by_cases hstaged : place = Tree.resolve (names (pre ++ m))
  · rw [Tree.Spared, hstaged, hgone, hfree]
    exact .inl rfl
  · rw [names_prefix_append hbeside.isPrefix, names_name hbeside.name]
    exact (hspared place).trans (.inl (hsame place hstaged hplace))

end Beside

/-! ## All or nothing -/

/-- The path is that of a document, in whatever store. -/
def IsDocument (path : Path) : Prop :=
  ∃ (store : Store) (collection : Path) (key : String), store.documentPath collection key = .ok path

/-- Nothing is where the document is going to be staged. -/
def Unstaged (store : Store) (suffix : List Char) (collection : Path) (key : String) (t : Tree) :
    Prop :=
  ∀ path, store.documentPath collection key = .ok path → path.staging suffix ≠ path →
    t.entry? (Tree.resolve (names (path.staging suffix).chars)) = none

/-- What can be read is in a file with the name of a document. -/
theorem document_of_read (h : IsDocument path) {content : Bytes}
    (hread : t.read path = .ok content) :
    ∃ pre stem, IsPrefix pre ∧ IsStem stem ∧ path = ⟨pre ++ documentName stem⟩ := by
  obtain ⟨store, collection, key, hpath⟩ := h
  obtain ⟨pre, hpre, ⟨stem, hstem, rfl⟩ | rfl⟩ := documentPath_cases hpath
  · exact ⟨pre, stem, hpre, hstem, rfl⟩
  · rw [Tree.read_up hpre] at hread
    rcases hcheck : Tree.check ⟨pre ++ ['.', '.']⟩ with _ | _
    · rw [hcheck] at hread
      cases hread
    · rcases hwalk : t.walk (names pre) with _ | _ <;> rw [hcheck, hwalk] at hread <;> cases hread

/-- At every point of a write, every other document that could be read is read as before. -/
theorem read_other_document (hsuffix : Drawn suffix) (hvalid : t.Valid)
    (hbegan : Began (store.write suffix collection key document) trace) (hsteps : Steps t trace t')
    {other : Path} {content : Bytes} (hother : IsDocument other)
    (hplace : ∀ path, store.documentPath collection key = .ok path →
      Tree.resolve (names other.chars) ≠ Tree.resolve (names path.chars))
    (hread : t.read other = .ok content) : t'.read other = .ok content := by
  obtain ⟨pre', stem', hpre', hstem', rfl⟩ := document_of_read hother hread
  have hname := isName_documentName hstem'
  rcases hpath : store.documentPath collection key with error | path
  · rw [write_eq, hpath] at hbegan
    obtain rfl := began_pure.mp hbegan
    rw [steps_nil hsteps]
    exact hread
  · obtain ⟨pre, hpre, ⟨stem, rfl, hbeside⟩ | rfl⟩ := documentPath_beside hpath hsuffix
    · exact read_other hbeside hpath hvalid hbegan hsteps hpre' hname
        (stagedName_ne_documentName hsuffix stem stem').symm (hplace _ hpath) hread
    · exact read_of_up hpre hpath hbegan hsteps hpre' hname hread

/-- After a write that failed, the document is what it was. -/
theorem run_read_of_error {α : Type} {decode : Bytes → Option α} (hsuffix : Drawn suffix)
    (hvalid : t.Valid) {error : StoreError}
    (h : Runs (store.write suffix collection key document) trace (.error error))
    (hsteps : Steps t trace t')
    (hclear : Disk.run none (store.read decode collection key) t = (some (.ok none), t) →
      store.Clear collection key t) :
    ∃ found, Disk.run none (store.read decode collection key) t = (some found, t) ∧
      Disk.run none (store.read decode collection key) t' = (some found, t') := by
  rcases hpath : store.documentPath collection key with error' | path
  · exact ⟨_, run_read_of_no_path hpath t, run_read_of_no_path hpath t'⟩
  · have hclear (hread : t.read path = .error .notFound) : store.Clear collection key t := by
      apply hclear
      rw [run_read hpath, hread]
      rfl
    suffices hread : t'.read path = t.read path from
      ⟨_, run_read hpath t, hread ▸ run_read hpath t'⟩
    obtain ⟨pre, hpre, ⟨stem, rfl, hbeside⟩ | rfl⟩ := documentPath_beside hpath hsuffix
    · have hpiece := hbeside.name.isPiece
      have hrenamed : ¬ renamed trace = true := by
        rw [renamed_write hpre hpiece hpath h]
        exact nofun
      have hshows := shows_read hpre hpiece hpath hvalid hclear
      have hread := (shows_write hbeside hpath hshows h.began hsteps).read
      rw [if_neg hrenamed] at hread
      exact hread
    · obtain ⟨-, made, hway, hmade⟩ := write_up hpre hpath h.began hsteps
      exact ((shows_read hpre isPiece_up hpath hvalid hclear).steps hpre isPiece_up hway hmade).read

theorem staging_ne (hbeside : Beside suffix pre m n) :
    Path.staging ⟨pre ++ n⟩ suffix ≠ ⟨pre ++ n⟩ := by
  rw [hbeside.staging]
  exact fun heq => hbeside.ne (List.append_cancel_left (Path.mk.inj heq))

section Unstaged

variable (hsuffix : Drawn suffix) (hvalid : t.Valid)
  (hfree : store.Unstaged suffix collection key t)

include hsuffix hvalid hfree

/-- A write that failed, and could remove what it staged, has spared every entry. -/
theorem write_error {error : StoreError}
    (h : Runs (store.write suffix collection key document) trace (.error error))
    (hsteps : Steps t trace t') (hremoved : ∀ p r, ⟨.remove p, r⟩ ∈ trace → r = .ok ())
    (place : Place) :
    t'.entry? place = t.entry? place ∨ ∃ path, store.documentPath collection key = .ok path ∧
      Tree.Spared (names path.chars) t t' place := by
  rcases hpath : store.documentPath collection key with error' | path
  · rw [write_eq, hpath] at h
    obtain ⟨rfl, -⟩ := runs_pure.mp h
    rw [steps_nil hsteps]
    exact .inl rfl
  · refine .inr ⟨path, rfl, ?_⟩
    obtain ⟨pre, hpre, ⟨stem, rfl, hbeside⟩ | rfl⟩ := documentPath_beside hpath hsuffix
    · have hfree := hfree _ hpath (staging_ne hbeside)
      rw [hbeside.staging] at hfree
      exact spared_of_error hbeside hpath hvalid hfree h hsteps hremoved place
    · obtain ⟨-, made, hway, hmade⟩ := write_up hpre hpath h.began hsteps
      rw [names_prefix_append hpre, names_piece isPiece_up]
      exact steps_spared hway hmade ['.', '.'] place

/-- A write that came off has put the document into its file, left nothing staged, and spared every
other entry. -/
theorem write_ok (h : Runs (store.write suffix collection key document) trace (.ok ()))
    (hsteps : Steps t trace t') :
    ∃ path, store.documentPath collection key = .ok path ∧
      t'.entry? (Tree.resolve (names path.chars)) = some (.file document.bytes) ∧
      t'.read path = .ok document.bytes ∧
      t'.entry? (Tree.resolve (names (path.staging suffix).chars)) = none ∧
      ∀ place, place ≠ Tree.resolve (names path.chars) →
        Tree.Spared (names path.chars) t t' place := by
  rcases hpath : store.documentPath collection key with error | path
  · rw [write_eq, hpath] at h
    cases (runs_pure.mp h).2
  · obtain ⟨pre, hpre, ⟨stem, rfl, hbeside⟩ | rfl⟩ := documentPath_beside hpath hsuffix
    · have hfree := hfree _ hpath (staging_ne hbeside)
      rw [hbeside.staging] at hfree
      obtain ⟨hthere, hgone, hspared⟩ := spared_of_ok hbeside hpath hvalid hfree h hsteps
      refine ⟨_, rfl, hthere, read_write hbeside hpath hvalid h hsteps, ?_, hspared⟩
      rw [hbeside.staging]
      exact hgone
    · have hrenamed := (renamed_write hpre isPiece_up hpath h).mpr rfl
      rw [(write_up hpre hpath h.began hsteps).1] at hrenamed
      cases hrenamed

end Unstaged

/-- A write is all or nothing. At every point of it every other document is read as before. If the
place for the staged file was free: a write that failed, and could remove what it staged, has spared
every entry, and the document is what it was, where a document that was missing had a clear way; a
write that came off has put the document into its file, left nothing staged, and spared every other
entry. -/
theorem write_atomic (hsuffix : Drawn suffix) (hvalid : t.Valid) :
    (∀ trace t', Began (store.write suffix collection key document) trace → Steps t trace t' →
      ∀ other content, IsDocument other →
        (∀ path, store.documentPath collection key = .ok path →
          Tree.resolve (names other.chars) ≠ Tree.resolve (names path.chars)) →
        t.read other = .ok content → t'.read other = .ok content) ∧
    (store.Unstaged suffix collection key t →
      (∀ trace error t', Runs (store.write suffix collection key document) trace (.error error) →
        Steps t trace t' → (∀ p r, ⟨.remove p, r⟩ ∈ trace → r = .ok ()) →
        (∀ place, t'.entry? place = t.entry? place ∨ ∃ path,
          store.documentPath collection key = .ok path ∧
            Tree.Spared (names path.chars) t t' place) ∧
        ∀ (α : Type) (decode : Bytes → Option α),
          (Disk.run none (store.read decode collection key) t = (some (.ok none), t) →
            store.Clear collection key t) →
          ∃ found, Disk.run none (store.read decode collection key) t = (some found, t) ∧
            Disk.run none (store.read decode collection key) t' = (some found, t')) ∧
      ∀ trace t', Runs (store.write suffix collection key document) trace (.ok ()) →
        Steps t trace t' → ∃ path, store.documentPath collection key = .ok path ∧
          t'.entry? (Tree.resolve (names path.chars)) = some (.file document.bytes) ∧
          t'.read path = .ok document.bytes ∧
          t'.entry? (Tree.resolve (names (path.staging suffix).chars)) = none ∧
          ∀ place, place ≠ Tree.resolve (names path.chars) →
            Tree.Spared (names path.chars) t t' place) := by
  refine ⟨fun trace t' hbegan hsteps other content hother hplace hread =>
    read_other_document hsuffix hvalid hbegan hsteps hother hplace hread, fun hfree => ⟨?_, ?_⟩⟩
  · intro trace error t' h hsteps hremoved
    exact ⟨write_error hsuffix hvalid hfree h hsteps hremoved,
      fun α decode hclear => run_read_of_error hsuffix hvalid h hsteps hclear⟩
  · intro trace t' h hsteps
    exact write_ok hsuffix hvalid hfree h hsteps

/-- A store in the root directory. -/
def rehearsal : Store where
  root := ⟨['/']⟩

/-- A tree with a directory where a document would be. -/
def obstructed : Tree where
  entries := [(["k.json".toList], .directory)]

theorem valid_obstructed : obstructed.Valid := by
  have hmade : Tree.makeDirectory {} ⟨"/k.json".toList⟩ = .ok obstructed := rfl
  exact Tree.valid_makeDirectory Tree.valid_empty hmade

theorem drawn_abcdef : Drawn "abcdef".toList :=
  ⟨[0, 1, 2, 3, 4, 5], rfl, by decide +kernel⟩

/-- What a write does on a disk that keeps a tree. -/
def onDisk (store : Store) (collection : Path) (key : String) (document : Json.Value) (t : Tree) :
    Option (Except StoreError Unit) × (Tree × List (Exchange Disk)) :=
  (store.write "abcdef".toList collection key document).run keeping.recorded 1 (t, [])

theorem runs_onDisk {result : Except StoreError Unit}
    (h : (onDisk store collection key document t).1 = some result) :
    Runs (store.write "abcdef".toList collection key document)
        (onDisk store collection key document t).2.2 result ∧
      Steps t (onDisk store collection key document t).2.2
        (onDisk store collection key document t).2.1 := by
  obtain ⟨hruns, hanswered⟩ := runs_of_run h
  exact ⟨hruns, steps_of_answered hanswered⟩

/-- A file was asked to be removed, and was not. -/
def isLeft : Exchange Disk → Bool
  | ⟨.remove _, .error _⟩ => true
  | _ => false

theorem removed_of_not_left {trace : List (Exchange Disk)} (h : trace.any isLeft = false) (p : Path)
    (r : Except FileError Unit) (he : ⟨.remove p, r⟩ ∈ trace) : r = .ok () := by
  have hleft := List.any_eq_false.mp h _ he
  cases r with
  | error error => exact absurd rfl hleft
  | ok => rfl

/-- The file is staged and cannot be moved, so it is removed. -/
theorem write_atomic_rehearsed :
    ∃ trace t', Runs (rehearsal.write "abcdef".toList ⟨['/']⟩ "k" (.bool true)) trace
        (.error (.file .isDirectory)) ∧ Steps obstructed trace t' ∧
      ∀ place, t'.entry? place = obstructed.entry? place ∨ ∃ path,
        rehearsal.documentPath ⟨['/']⟩ "k" = .ok path ∧
          Tree.Spared (names path.chars) obstructed t' place := by
  have hresult : (onDisk rehearsal ⟨['/']⟩ "k" (.bool true) obstructed).1 =
      some (.error (.file .isDirectory)) := by
    decide +kernel
  have hremoved :
      (onDisk rehearsal ⟨['/']⟩ "k" (.bool true) obstructed).2.2.any isLeft = false := by
    decide +kernel
  have hfree : rehearsal.Unstaged "abcdef".toList ⟨['/']⟩ "k" obstructed := by
    intro path hpath _
    have hpath' : rehearsal.documentPath ⟨['/']⟩ "k" = .ok ⟨"/k.json".toList⟩ := by
      decide +kernel
    obtain rfl := Except.ok.inj (hpath'.symm.trans hpath)
    decide +kernel
  obtain ⟨hruns, hsteps⟩ := runs_onDisk hresult
  obtain ⟨-, hwhole⟩ := write_atomic drawn_abcdef valid_obstructed
  exact ⟨_, _, hruns, hsteps,
    ((hwhole hfree).1 _ _ _ hruns hsteps (removed_of_not_left hremoved)).1⟩

/-- A collection whose last name no directory can have. -/
def unclearCollection : Path :=
  ⟨'/' :: 'a' :: '/' :: List.replicate 256 'x'⟩

/-- The path of a document there. -/
def unclearPath : Path :=
  ⟨'/' :: 'a' :: '/' :: (List.replicate 256 'x' ++ "/k.json".toList)⟩

theorem documentPath_unclear :
    rehearsal.documentPath unclearCollection "k" = .ok unclearPath := by
  decide +kernel

/-- After a write that failed, a document that was missing can be one that cannot be read: the first
directory on the way was made, and the next one cannot be. -/
theorem write_atomic_unclear :
    ¬ ∀ (store : Store) (suffix : List Char) (collection : Path) (key : String)
        (document : Json.Value) (t t' : Tree) (trace : List (Exchange Disk)) (error : StoreError),
      Drawn suffix → t.Valid → store.Unstaged suffix collection key t →
      Runs (store.write suffix collection key document) trace (.error error) →
      Steps t trace t' → (∀ p r, ⟨.remove p, r⟩ ∈ trace → r = .ok ()) →
      ∃ found, Disk.run none (store.read some collection key) t = (some found, t) ∧
        Disk.run none (store.read some collection key) t' = (some found, t') := by
  intro h
  have hresult : (onDisk rehearsal unclearCollection "k" (.bool true) {}).1 =
      some (.error (.file .nameTooLong)) := by
    rw [onDisk, write_eq, documentPath_unclear]
    decide +kernel
  have hremoved : (onDisk rehearsal unclearCollection "k" (.bool true) {}).2.2.any isLeft =
      false := by
    rw [onDisk, write_eq, documentPath_unclear]
    decide +kernel
  have hfree : rehearsal.Unstaged "abcdef".toList unclearCollection "k" {} := by
    intro path hpath _
    obtain rfl := Except.ok.inj (documentPath_unclear.symm.trans hpath)
    decide +kernel
  have hbefore : rehearsal.found some (Tree.read {} unclearPath) = .ok none := by
    decide +kernel
  have hafter : rehearsal.found some ((onDisk rehearsal unclearCollection "k" (.bool true) {}).2.1.read
      unclearPath) = .error (.file .nameTooLong) := by
    rw [onDisk, write_eq, documentPath_unclear]
    decide +kernel
  obtain ⟨hruns, hsteps⟩ := runs_onDisk hresult
  obtain ⟨result, hread, hread'⟩ := h _ _ _ _ _ _ _ _ _ drawn_abcdef Tree.valid_empty hfree hruns
    hsteps (removed_of_not_left hremoved)
  rw [run_read documentPath_unclear, hbefore] at hread
  rw [run_read documentPath_unclear, hafter] at hread'
  cases hread
  cases hread'

end UpdateAgent.Store
