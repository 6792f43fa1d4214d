import UpdateAgent.Proofs.Credentials
import UpdateAgent.Proofs.Store.Write
import UpdateAgent.Store.Credentials

/-!
# The document of the credentials

Where the credentials of a device are kept, what is found there (`found`), and what a `put` does to
it: on disks on which every step may fail, a read of the document finds what it found before, or the
new credentials once the document was moved into its place (`shows_put`).
-/

namespace UpdateAgent.CredentialStore

open UpdateAgent.Path Program Disk

variable {s : CredentialStore} {t t' : Tree} {trace : List (Exchange Disk)} {path : Path}
  {pre suffix : List Char}

/-! ## The document and its path -/

/-- The name of the document. -/
def fileName : Name :=
  Store.documentName key.toList

/-- The name of the document while it is staged. -/
def stagedName (suffix : List Char) : Name :=
  Store.stagedName key.toList suffix

theorem isStem_key : Store.IsStem key.toList := by
  constructor <;> decide

theorem isName_fileName : IsName fileName :=
  Store.isName_documentName isStem_key

theorem names_document (hpre : IsPrefix pre) : names (pre ++ fileName) = names pre ++ [fileName] :=
  Store.names_documentName hpre isStem_key

/-- The staged document is not taken for the document. -/
theorem stagedName_ne (suffix : List Char) : stagedName suffix ≠ fileName :=
  append_ne_of_length_lt (by decide) suffix

theorem documentPath_eq (h : s.store.documentPath s.collection key = .ok path) :
    ∃ pre, IsPrefix pre ∧ path = ⟨pre ++ fileName⟩ := by
  have hkey : IsName key.toList := by
    constructor <;> decide
  obtain ⟨-, directory, -, rfl⟩ := Store.documentPath_eq_ok h
  obtain ⟨pre, hpre, hchild⟩ := child_name directory
  have hextension := withExtension_child hpre key.toList [] key.toList
    (by simpa using hkey) hkey (by decide) (by decide) "json".toList
  have hname : key.toList ++ '.' :: "json".toList = fileName := by
    decide
  rw [List.append_nil, hname] at hextension
  rw [hchild key hkey]
  exact ⟨pre, hpre, hextension⟩

/-- The document is staged beside its file, with whatever suffix. -/
theorem beside_document (hpre : IsPrefix pre) (hsuffix : '/' ∉ suffix) :
    Store.Beside suffix pre (stagedName suffix) fileName where
  isPrefix := hpre
  staged := Store.isName_stagedName isStem_key hsuffix
  name := isName_fileName
  ne := stagedName_ne suffix
  staging := Store.staging_document hpre isStem_key suffix

/-! ## What is found -/

/-- What the credentials in a document are, by what a read of the document comes to. -/
def found (s : CredentialStore) : Except FileError Bytes → Except StoreError (Option Credentials) :=
  s.store.found Credentials.ofDocument?

theorem found_document (s : CredentialStore) (c : Credentials) :
    s.found (.ok c.document.bytes) = .ok (some c) := by
  have hdecode : Utf8.decode? c.document.bytes = some c.document.chars := Utf8.decode?_encode _
  have hdocument : Credentials.ofDocument? (Utf8.encode c.document.chars) = some c :=
    c.ofDocument?_bytes
  simp only [found, Store.found, hdecode, hdocument]

/-- Reading the credentials is reading the document, if it has a path. -/
theorem get_eq (s : CredentialStore) :
    s.get = match s.store.documentPath s.collection key with
      | .error error => pure (.error error)
      | .ok path => Disk.read path >>= fun content => pure (s.found content) :=
  Store.read_eq s.store Credentials.ofDocument? s.collection key

/-- What the device finds on its disk: what is read from there, and the disk stays as it is. -/
theorem run_get (hpath : s.store.documentPath s.collection key = .ok path) (t : Tree) :
    Disk.run none s.get t = (some (s.found (t.read path)), t) :=
  Store.run_read hpath t

/-- Something is always found. -/
theorem exists_run_get (s : CredentialStore) (t : Tree) :
    ∃ loaded, Disk.run none s.get t = (some loaded, t) := by
  rcases hpath : s.store.documentPath s.collection key with error | path
  · exact ⟨.error error, Store.run_read_of_no_path hpath t⟩
  · exact ⟨_, run_get hpath t⟩

/-- There is no document where its path leads, or would lead if every directory on the way were
there. -/
def Vacant (s : CredentialStore) (t : Tree) : Prop :=
  ∀ path, s.store.documentPath s.collection key = .ok path →
    ¬ t.HasFile (Tree.resolve (names path.chars))

theorem vacant_empty (s : CredentialStore) : s.Vacant {} := by
  rintro path - ⟨content, h⟩
  rw [Tree.entry?] at h
  split at h <;> cases h

/-- In a tree without the document no credentials are found. -/
theorem Vacant.ne_some (h : s.Vacant t) (hpath : s.store.documentPath s.collection key = .ok path)
    (c : Credentials) : s.found (t.read path) ≠ .ok (some c) := by
  intro hfound
  obtain ⟨pre, hpre, rfl⟩ := documentPath_eq hpath
  rcases Store.found_eq_ok hfound with ⟨-, heq⟩ | ⟨bytes, hread, -⟩
  · cases heq
  · apply h _ hpath
    rw [names_document hpre, Tree.resolve_concat _ isName_fileName]
    exact Tree.hasFile_of_read hpre isName_fileName hread

/-! ## Storing credentials -/

/-- Behind the first directory that is missing on the way to the document, no name leads back up or
is too long. -/
def Clear (s : CredentialStore) (t : Tree) : Prop :=
  ∀ path, s.store.documentPath s.collection key = .ok path → t.Clear (names path.chars)

/-- Storing credentials makes the directories above the document, then replaces the document. -/
theorem put_eq (hpath : s.store.documentPath s.collection key = .ok path) (suffix : List Char)
    (new : Credentials) :
    s.put suffix new = (match path.parent? with
      | some parent => makeDirectories parent
      | none => pure (.ok ())) >>= fun ready => match ready with
        | .error error => pure (.error (.file error))
        | .ok () =>
          replace path suffix new.document.bytes >>= fun result =>
            pure (Store.ofFile result) := by
  have hwrite := Store.write_eq s.store suffix s.collection key new.document
  rw [hpath] at hwrite
  exact hwrite

section Prefix

variable (hpre : IsPrefix pre)
  (hpath : s.store.documentPath s.collection key = .ok ⟨pre ++ fileName⟩)

include hpre hpath

/-- Where the document is not missing, or the way to it is clear, what a read of the document finds
stays while directories are made. -/
theorem shows_read (hvalid : t.Valid)
    (hclear : t.read ⟨pre ++ fileName⟩ = .error .notFound → s.Clear t) :
    Shows t pre fileName (t.read ⟨pre ++ fileName⟩) :=
  Store.shows_read hpre isName_fileName.isPiece hpath hvalid hclear

/-- So it is where credentials are found, or where none are and the way is clear. -/
theorem shows_document (hvalid : t.Valid) {old : Option Credentials}
    (hclear : old = none → s.Clear t) (hfound : s.found (t.read ⟨pre ++ fileName⟩) = .ok old) :
    Shows t pre fileName (t.read ⟨pre ++ fileName⟩) := by
  refine shows_read hpre hpath hvalid fun hread => hclear ?_
  rw [hread] at hfound
  exact (Except.ok.inj hfound).symm

variable (hsuffix : '/' ∉ suffix) {new : Credentials}

include hsuffix

/-- In the course of a `put`, a read of the document finds what it found before, or the new
credentials once the document was moved into its place. -/
theorem shows_put {content : Except FileError Bytes} (h : Shows t pre fileName content)
    (hbegan : Began (s.put suffix new) trace) (hsteps : Steps t trace t') :
    Shows t' pre fileName (if renamed trace then .ok new.document.bytes else content) :=
  Store.shows_write (beside_document hpre hsuffix) hpath h hbegan hsteps

/-- After a `put` that came off the document is there, whatever was found before. -/
theorem read_put (hvalid : t.Valid) (h : Runs (s.put suffix new) trace (.ok ()))
    (hsteps : Steps t trace t') : t'.read ⟨pre ++ fileName⟩ = .ok new.document.bytes :=
  Store.read_write (beside_document hpre hsuffix) hpath hvalid h hsteps

end Prefix

/-- The document was moved into its place if the `put` came off, and only then. -/
theorem renamed_put (hpath : s.store.documentPath s.collection key = .ok path)
    {new : Credentials} {result : Except StoreError Unit}
    (h : Runs (s.put suffix new) trace result) : renamed trace = true ↔ result = .ok () := by
  obtain ⟨pre, hpre, rfl⟩ := documentPath_eq hpath
  exact Store.renamed_write hpre isName_fileName.isPiece hpath h

/-- A `put` that does not come off makes no document. -/
theorem Vacant.put (h : s.Vacant t) (hvalid : t.Valid) (hsuffix : '/' ∉ suffix)
    {new : Credentials} {error : StoreError} (hput : Runs (s.put suffix new) trace (.error error))
    (hsteps : Steps t trace t') : s.Vacant t' := by
  rintro path hpath ⟨content, hfile⟩
  apply h path hpath
  have hrenamed : renamed trace = false := by
    rw [← Bool.not_eq_true, renamed_put hpath hput]
    exact nofun
  obtain ⟨pre, hpre, rfl⟩ := documentPath_eq hpath
  have hbeside := beside_document hpre hsuffix
  obtain ⟨t₁, hspared, hreplacing⟩ := Store.write_cut hbeside hpath hvalid hput.began hsteps
  rw [hrenamed] at hreplacing
  have hplace : Tree.resolve (names (pre ++ fileName)) ≠
      Tree.resolve (names (pre ++ stagedName suffix)) := by
    rw [Tree.resolve_child hpre hbeside.name, Tree.resolve_child hpre hbeside.staged]
    simpa using hbeside.ne.symm
  rw [hreplacing.entry?_of_not_moved hpre hbeside.staged hplace] at hfile
  rcases hspared (Tree.resolve (names (pre ++ fileName))) with hentry | ⟨-, hentry, -⟩
  · exact ⟨content, hentry ▸ hfile⟩
  · rw [hfile] at hentry
    cases hentry

end UpdateAgent.CredentialStore
