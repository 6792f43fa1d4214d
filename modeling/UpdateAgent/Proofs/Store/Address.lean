import UpdateAgent.Proofs.File.Parts
import UpdateAgent.Proofs.Store.Atomic

/-!
# Which addresses are one document

The path of a document is told by the names of its collection below the root of the store and by the
stem of its key, which is the key without what follows its last dot (`documentPath_parts`). So keys
with the same stem are one document, and a write to one of them replaces the other
(`write_apart_dotted`). Addresses that differ in the names of the collection or in the stem have
different paths, and a write to one document leaves the other as it is (`write_apart`).
-/

namespace UpdateAgent.Store

open UpdateAgent.Path Program Disk

variable {store : Store} {collection collection' path path' : Path} {key key' : String}
  {document : Json.Value} {suffix : List Char} {t t' : Tree} {trace : List (Exchange Disk)}

/-! ## The path of an address -/

/-- What of a collection leads to its directory from the root of the store. -/
def below (collection : Path) : List Path.Part :=
  collection.belowRoot.parts

/-- The last part of the path of a document whose key has this stem. -/
def lastPart (stem : List Char) : Path.Part :=
  if stem = ['.'] then .up else .name (documentName stem)

theorem lastPart_inj {stem stem' : List Char} (h : lastPart stem = lastPart stem') :
    stem = stem' := by
  simp only [lastPart] at h
  split at h <;> split at h
  case isTrue.isTrue hdot hdot' => rw [hdot, hdot']
  case isFalse.isFalse => exact List.append_cancel_right (Path.Part.name.inj h)
  all_goals cases h

theorem exists_names {ps : List Path.Part} (h : ps.all isName) :
    ∃ ns : List Name, ps = ns.map .name := by
  induction ps with
  | nil => exact ⟨[], rfl⟩
  | cons part ps ih =>
    obtain ⟨hpart, hps⟩ := Bool.and_eq_true_iff.mp h
    obtain ⟨ns, rfl⟩ := ih hps
    cases part with
    | name n => exact ⟨n :: ns, rfl⟩
    | _ => cases hpart

/-- Where every part is a name, the text has no start of its own. -/
theorem front_of_names {p : Path} (h : p.parts.all isName) : front p.chars = ([], p.chars) := by
  have hcases : (front p.chars).1 = [] ∨ (front p.chars).1 = ['/'] ∨ (front p.chars).1 = ['.'] := by
    unfold front
    split <;> simp
  rcases hcases with hstart | hstart | hstart
  · have happend := front_append p.chars
    rw [hstart, List.nil_append] at happend
    exact Prod.ext hstart happend
  · simp [parts, hstart, isName] at h
  · simp [parts, hstart, isName] at h

/-- The directory of a collection is below the root of the store. -/
theorem directory_parts {directory : Path} (h : store.directory collection = .ok directory) :
    directory.parts = store.root.parts ++ below collection ∧ (below collection).all isName := by
  simp only [Store.directory] at h
  split at h
  case isTrue hnames =>
    obtain rfl := Except.ok.inj h
    exact ⟨parts_join (front_of_names hnames), hnames⟩
  case isFalse => cases h

theorem parts_ending {pre stem : List Char} (hpre : IsPrefix pre)
    (h : IsStem stem ∨ stem = ['.']) :
    parts ⟨pre ++ ending stem⟩ = parts ⟨pre⟩ ++ [lastPart stem] := by
  rcases h with h | rfl
  · have hname := isName_documentName h
    rw [ending_of_isStem h, lastPart, if_neg h.ne_dot,
      parts_prefix_append hpre (front_piece hname.isPiece), parts_name hname]
  · rw [ending_dot, parts_prefix_append hpre (front_piece isPiece_up), parts_piece isPiece_up]
    rfl

/-- The path of a document is made of the root, the names of the collection, and what the stem of
the key makes of the last one. -/
theorem documentPath_parts (h : store.documentPath collection key = .ok path) :
    path.parts = store.root.parts ++ below collection ++ [lastPart (keyStem key)] ∧
      (below collection).all isName := by
  obtain ⟨hkey, directory, hdirectory, rfl⟩ := documentPath_eq_ok h
  have hname := isName_of_isKey hkey
  obtain ⟨hparts, hnames⟩ := directory_parts hdirectory
  obtain ⟨pre, hpre, hchild⟩ := child_name directory
  -- What stands before the name has the parts of the directory.
  have hjoin : (directory.child key).parts = directory.parts ++ parts ⟨key.toList⟩ :=
    parts_join (front_piece hname.isPiece)
  rw [hchild key hname, parts_prefix_append hpre (front_piece hname.isPiece)] at hjoin
  obtain ⟨hstem, hextension⟩ := withExtension_name hpre hname
  rw [hchild key hname, hextension, parts_ending hpre hstem, List.append_cancel_right hjoin, hparts]
  exact ⟨rfl, hnames⟩

/-- Two addresses have one path just if their collections have the same names and their keys the
same stem. -/
theorem documentPath_parts_eq_iff (h : store.documentPath collection key = .ok path)
    (h' : store.documentPath collection' key' = .ok path') :
    path.parts = path'.parts ↔
      below collection = below collection' ∧ keyStem key = keyStem key' := by
  rw [(documentPath_parts h).1, (documentPath_parts h').1]
  constructor
  · intro heq
    obtain ⟨hbelow, hlast⟩ := List.append_inj' heq rfl
    exact ⟨List.append_cancel_left hbelow, lastPart_inj (List.singleton_inj.mp hlast)⟩
  · rintro ⟨hbelow, hstem⟩
    rw [hbelow, hstem]

/-- In one collection, keys with one stem lead to one path. -/
theorem documentPath_of_stem (h : store.documentPath collection key = .ok path)
    (h' : store.documentPath collection key' = .ok path') (hstem : keyStem key = keyStem key') :
    path = path' := by
  obtain ⟨hkey, directory, hdirectory, rfl⟩ := documentPath_eq_ok h
  obtain ⟨hkey', directory', hdirectory', rfl⟩ := documentPath_eq_ok h'
  obtain rfl := Except.ok.inj (hdirectory.symm.trans hdirectory')
  obtain ⟨pre, hpre, hchild⟩ := child_name directory
  have hname := isName_of_isKey hkey
  have hname' := isName_of_isKey hkey'
  rw [keyStem, keyStem] at hstem
  rw [hchild key hname, hchild key' hname', (withExtension_name hpre hname).2,
    (withExtension_name hpre hname').2, hstem]

/-! ## Other documents -/

/-- The place of a document is below that of the root. -/
theorem resolve_document (h : store.documentPath collection key = .ok path)
    (hstem : keyStem key ≠ ['.']) :
    ∃ ns : List Name, below collection = ns.map .name ∧ Tree.resolve (names path.chars) =
      Tree.resolve (names store.root.chars) ++ ns ++ [documentName (keyStem key)] := by
  obtain ⟨hparts, hnames⟩ := documentPath_parts h
  obtain ⟨ns, hns⟩ := exists_names hnames
  refine ⟨ns, hns, ?_⟩
  rw [resolve_names, resolve_names, hparts, hns, List.foldl_append, List.foldl_append,
    foldl_follow_names, lastPart, if_neg hstem]
  rfl

/-- The path of a document that can be read ends in its name. -/
theorem stem_ne_of_read (h : store.documentPath collection key = .ok path) {content : Bytes}
    (hread : t.read path = .ok content) : keyStem key ≠ ['.'] := by
  obtain ⟨pre, stem', hpre, hstem', rfl⟩ := document_of_read ⟨store, collection, key, h⟩ hread
  have hparts := (documentPath_parts h).1
  rw [← ending_of_isStem hstem', parts_ending hpre (.inl hstem')] at hparts
  intro hdot
  have hlast := lastPart_inj (List.singleton_inj.mp (List.append_inj' hparts rfl).2)
  exact hstem'.ne_dot (hlast.trans hdot)

/-- At every point of a write, a document of another path that could be read is read as before. -/
theorem read_apart (hpath : store.documentPath collection key = .ok path)
    (hpath' : store.documentPath collection' key' = .ok path') (hne : path.parts ≠ path'.parts)
    (hsuffix : Drawn suffix) (hvalid : t.Valid)
    (hbegan : Began (store.write suffix collection key document) trace) (hsteps : Steps t trace t')
    {content : Bytes} (hread : t.read path' = .ok content) : t'.read path' = .ok content := by
  by_cases hdot : keyStem key = ['.']
  · -- The address stands for a directory, which no file can replace.
    obtain ⟨pre, hpre, -, rfl⟩ := documentPath_ending hpath
    obtain ⟨pre', stem', hpre', hstem', rfl⟩ :=
      document_of_read ⟨store, collection', key', hpath'⟩ hread
    rw [hdot, ending_dot] at hpath
    exact read_of_up hpre hpath hbegan hsteps hpre' (isName_documentName hstem') hread
  · refine read_other_document hsuffix hvalid hbegan hsteps ⟨store, collection', key', hpath'⟩ ?_
      hread
    intro path₁ hpath₁ hplace
    obtain rfl := Except.ok.inj (hpath.symm.trans hpath₁)
    obtain ⟨ns, hns, hresolve⟩ := resolve_document hpath hdot
    obtain ⟨ns', hns', hresolve'⟩ := resolve_document hpath' (stem_ne_of_read hpath' hread)
    rw [hresolve, hresolve'] at hplace
    obtain ⟨hnames, hname⟩ := List.append_inj' hplace rfl
    refine hne ((documentPath_parts_eq_iff hpath hpath').mpr ⟨?_, ?_⟩)
    · rw [hns, hns', List.append_cancel_left hnames]
    · exact (List.append_cancel_right (List.singleton_inj.mp hname)).symm

/-- Two addresses of a store have one path just if their collections have the same names and their
keys the same stem. If they have not, then at every point of a write to the one a document that was
stored at the other is found as before. If they have, in one collection, they are one document:
after a write to the one that came off, the new document is found at the other. -/
theorem write_apart (hpath : store.documentPath collection key = .ok path)
    (hpath' : store.documentPath collection' key' = .ok path') :
    (path.parts = path'.parts ↔ below collection = below collection' ∧ keyStem key = keyStem key') ∧
    (path.parts ≠ path'.parts → ∀ suffix document t trace t', Drawn suffix → t.Valid →
      Began (store.write suffix collection key document) trace → Steps t trace t' →
      ∀ content, t.read path' = .ok content → t'.read path' = .ok content ∧
        ∀ (α : Type) (decode : Bytes → Option α), ∃ result,
          Disk.run none (store.read decode collection' key') t = (some result, t) ∧
            Disk.run none (store.read decode collection' key') t' = (some result, t')) ∧
    (collection = collection' → keyStem key = keyStem key' → path = path' ∧
      ∀ suffix document t trace t', Drawn suffix → t.Valid →
        Runs (store.write suffix collection key document) trace (.ok ()) → Steps t trace t' →
        t'.read path' = .ok document.bytes) := by
  refine ⟨documentPath_parts_eq_iff hpath hpath', ?_, ?_⟩
  · intro hne suffix document t trace t' hsuffix hvalid hbegan hsteps content hread
    have hread' := read_apart hpath hpath' hne hsuffix hvalid hbegan hsteps hread
    refine ⟨hread', fun α decode => ⟨store.found decode (.ok content), ?_, ?_⟩⟩
    · rw [run_read hpath', hread]
    · rw [run_read hpath', hread']
  · rintro rfl hstem
    obtain rfl := documentPath_of_stem hpath hpath' hstem
    refine ⟨rfl, fun suffix document t trace t' hsuffix hvalid hruns hsteps => ?_⟩
    obtain ⟨pre, hpre, ⟨stem', rfl, hbeside⟩ | rfl⟩ := documentPath_beside hpath hsuffix
    · exact read_write hbeside hpath hvalid hruns hsteps
    · -- A directory cannot have been replaced.
      have hrenamed := (renamed_write hpre isPiece_up hpath hruns).mpr rfl
      rw [(write_up hpre hpath hruns.began hsteps).1] at hrenamed
      cases hrenamed

/-- A collection in the rehearsal. -/
def shelf : Path :=
  ⟨"/c".toList⟩

/-- The tree after a document was written there. -/
def shelved (key : String) (document : Json.Value) (t : Tree) : Tree :=
  (onDisk rehearsal shelf key document t).2.1

theorem runs_shelved {key : String} {document : Json.Value} {t : Tree}
    (h : (onDisk rehearsal shelf key document t).1 = some (.ok ())) :
    Runs (rehearsal.write "abcdef".toList shelf key document)
        (onDisk rehearsal shelf key document t).2.2 (.ok ()) ∧
      Steps t (onDisk rehearsal shelf key document t).2.2 (shelved key document t) :=
  runs_onDisk h

/-- The tree with one document. -/
def shelvedOne : Tree :=
  shelved "b" (.bool true) {}

theorem valid_shelvedOne : shelvedOne.Valid := by
  have hresult : (onDisk rehearsal shelf "b" (.bool true) {}).1 = some (.ok ()) := by
    decide +kernel
  exact (runs_shelved hresult).2.valid Tree.valid_empty

/-- A document beside another one leaves it as it was. -/
theorem write_apart_rehearsed :
    ∃ trace t', Runs (rehearsal.write "abcdef".toList shelf "a" (.bool false)) trace (.ok ()) ∧
      Steps shelvedOne trace t' ∧
      t'.read ⟨"/c/b.json".toList⟩ = .ok (Json.Value.bool true).bytes := by
  have hpath : rehearsal.documentPath shelf "a" = .ok ⟨"/c/a.json".toList⟩ := by
    decide +kernel
  have hpath' : rehearsal.documentPath shelf "b" = .ok ⟨"/c/b.json".toList⟩ := by
    decide +kernel
  have hne : parts ⟨"/c/a.json".toList⟩ ≠ parts ⟨"/c/b.json".toList⟩ := by
    decide +kernel
  have hresult : (onDisk rehearsal shelf "a" (.bool false) shelvedOne).1 = some (.ok ()) := by
    decide +kernel
  have hread : shelvedOne.read ⟨"/c/b.json".toList⟩ = .ok (Json.Value.bool true).bytes := by
    decide +kernel
  obtain ⟨hruns, hsteps⟩ := runs_shelved hresult
  obtain ⟨-, hapart, -⟩ := write_apart hpath hpath'
  exact ⟨_, _, hruns, hsteps,
    (hapart hne _ _ _ _ _ drawn_abcdef valid_shelvedOne hruns.began hsteps _ hread).1⟩

/-- A key that differs from another one behind a dot only is another address of its document, and a
write to it replaces that document. -/
theorem write_apart_dotted :
    (¬ ∀ (store : Store) (collection collection' : Path) (key key' : String) (path path' : Path),
      store.documentPath collection key = .ok path →
      store.documentPath collection' key' = .ok path' →
      key ≠ key' ∨ below collection ≠ below collection' → path.parts ≠ path'.parts) ∧
    ¬ ∀ (store : Store) (collection collection' : Path) (key key' : String) (path path' : Path),
      store.documentPath collection key = .ok path →
      store.documentPath collection' key' = .ok path' →
      key ≠ key' ∨ below collection ≠ below collection' →
      ∀ suffix document t trace t', Drawn suffix → t.Valid →
        Runs (store.write suffix collection key document) trace (.ok ()) → Steps t trace t' →
        t'.read path' = t.read path' := by
  have hpath : rehearsal.documentPath shelf "b.c" = .ok ⟨"/c/b.json".toList⟩ := by
    decide +kernel
  have hpath' : rehearsal.documentPath shelf "b" = .ok ⟨"/c/b.json".toList⟩ := by
    decide +kernel
  constructor
  · intro h
    exact h _ _ _ _ _ _ _ hpath hpath' (.inl (by decide)) rfl
  · intro h
    have hresult : (onDisk rehearsal shelf "b.c" (.bool false) shelvedOne).1 = some (.ok ()) := by
      decide +kernel
    have hchanged : (shelved "b.c" (.bool false) shelvedOne).read ⟨"/c/b.json".toList⟩ ≠
        shelvedOne.read ⟨"/c/b.json".toList⟩ := by
      decide +kernel
    obtain ⟨hruns, hsteps⟩ := runs_shelved hresult
    exact hchanged (h _ _ _ _ _ _ _ hpath hpath' (.inl (by decide)) _ _ _ _ _ drawn_abcdef
      valid_shelvedOne hruns hsteps)

end UpdateAgent.Store
