import UpdateAgent.Proofs.Store.Address

/-!
# Documents stay below the root

Which addresses have a path, and where it leads (`address_confined`). The way to a document leads to
the root of the store and does not lead back up before it ends (`documentPath_way`), so what is not
below the root tells a read nothing (`read_confined`), and a write leaves it as it is but for the
root itself (`write_confined`). The last name of the way is the exception: a key of two dots with an
extension becomes the directory above.
-/

namespace UpdateAgent.Store

open UpdateAgent.Path Program Disk

variable {store : Store} {collection path : Path} {key : String} {document : Json.Value}
  {suffix : List Char} {t t' : Tree} {trace : List (Exchange Disk)}

/-! ## Addresses -/

/-- Seen from the root, the collection is made of names, and the key is a name. -/
structure IsAddress (collection : Path) (key : String) : Prop where
  collection : ∀ part ∈ seenFromRoot collection.parts, ∃ n, part = .name n
  key : IsName key.toList

theorem isKey_iff : isKey key = true ↔ IsName key.toList := by
  refine ⟨isName_of_isKey, fun h => ?_⟩
  have hne {text : String} (hne : key.toList ≠ text.toList) : key ≠ text :=
    fun heq => hne (congrArg String.toList heq)
  simp only [isKey, Bool.and_eq_true, decide_eq_true_eq, Bool.not_eq_true', List.contains_eq_mem,
    decide_eq_false_iff_not]
  exact ⟨⟨⟨hne h.ne_nil, h.no_slash⟩, hne h.ne_dot⟩, hne h.ne_dots⟩

theorem all_isName_iff {ps : List Path.Part} :
    ps.all isName = true ↔ ∀ part ∈ ps, ∃ n, part = .name n := by
  rw [List.all_eq_true]
  refine forall₂_congr fun part _ => ?_
  cases part <;> simp [isName]

/-- What has no path is no address. -/
theorem documentPath_dichotomy (store : Store) (collection : Path) (key : String) :
    (IsAddress collection key ∧ ∃ path, store.documentPath collection key = .ok path) ∨
      (¬ IsAddress collection key ∧
        store.documentPath collection key = .error .invalidPath) := by
  rw [documentPath]
  by_cases hkey : isKey key
  · rw [if_pos hkey, directory]
    by_cases hnames : collection.belowRoot.parts.all isName
    · rw [if_pos hnames]
      rw [parts_belowRoot] at hnames
      exact .inl ⟨⟨all_isName_iff.mp hnames, isKey_iff.mp hkey⟩, _, rfl⟩
    · rw [if_neg hnames]
      rw [parts_belowRoot] at hnames
      exact .inr ⟨fun h => hnames (all_isName_iff.mpr h.collection), rfl⟩
  · rw [if_neg hkey]
    exact .inr ⟨fun h => hkey (isKey_iff.mpr h.key), rfl⟩

/-- The key is two dots with an extension. -/
def IsUp (key : String) : Prop :=
  ∃ extension, key.toList = '.' :: '.' :: extension ∧ '.' ∉ extension

theorem keyStem_eq_dot_iff (hkey : IsName key.toList) : keyStem key = ['.'] ↔ IsUp key := by
  constructor
  · intro h
    rw [keyStem] at h
    rcases splitExtension_cases key.toList with hsplit | ⟨before, extension, hbefore, hdot, heq⟩
    · rw [hsplit] at h
      exact absurd h hkey.ne_dot
    · rw [heq, splitExtension_append hbefore hdot] at h
      obtain rfl : before = ['.'] := h
      exact ⟨extension, heq, hdot⟩
  · rintro ⟨extension, heq, hdot⟩
    have hsplit : splitExtension (['.'] ++ '.' :: extension) = (['.'], some extension) :=
      splitExtension_append (List.cons_ne_nil '.' []) hdot
    rw [keyStem, heq]
    exact congrArg Prod.fst hsplit

/-! ## Where addresses lead -/

theorem up_not_mem_names {p : Path} (h : p.parts.all isName) :
    ∀ n ∈ names p.chars, n ≠ ['.', '.'] := by
  rintro n hn rfl
  have hpieces := (List.mem_filter.mp hn).1
  have hup : Part.up ∈ p.parts := by
    rw [parts, front_of_names h]
    exact List.mem_append_right _ (List.mem_filterMap.mpr ⟨_, hpieces, rfl⟩)
  have hname := List.all_eq_true.mp h _ hup
  cases hname

/-- The way to a document leads to the root of the store first, then to the collection. -/
theorem documentPath_way (h : store.documentPath collection key = .ok path) :
    ∃ pre, IsPrefix pre ∧ (IsStem (keyStem key) ∨ keyStem key = ['.']) ∧
      path = ⟨pre ++ ending (keyStem key)⟩ ∧
      names pre = names store.root.chars ++ names collection.belowRoot.chars := by
  obtain ⟨hkey, directory, hdirectory, rfl⟩ := documentPath_eq_ok h
  have hname := isName_of_isKey hkey
  obtain ⟨pre, hpre, hchild⟩ := child_name directory
  rw [Store.directory] at hdirectory
  split at hdirectory
  case isFalse => cases hdirectory
  case isTrue hnames =>
    obtain rfl := Except.ok.inj hdirectory
    have hfront := front_of_names hnames
    obtain ⟨hstem, hextension⟩ := withExtension_name hpre hname
    refine ⟨pre, hpre, hstem, ?_, ?_⟩
    · rw [hchild key hname]
      exact hextension
    · -- Before the key, the names are those of the directory.
      have hbelow := names_join (p := store.root) (isAbsolute_of_front hfront)
      have hjoin := names_join (p := store.root.join collection.belowRoot) (q := ofText key)
        (isAbsolute_of_front (front_piece hname.isPiece))
      have hchild := hchild key hname
      rw [child] at hchild
      rw [hchild, names_prefix_append hpre, hbelow] at hjoin
      exact List.append_cancel_right hjoin

/-- Behind the root it does not lead back up before it ends. -/
theorem up_not_mem_way (h : store.documentPath collection key = .ok path) :
    ∀ n ∈ names collection.belowRoot.chars, n ≠ ['.', '.'] :=
  up_not_mem_names (documentPath_parts h).2

/-! ## Reads -/

/-- What a read comes to is told by the way to the root of the store and by what there is below
it. -/
theorem read_confined (hpath : store.documentPath collection key = .ok path)
    (hwalk : t'.walk (names store.root.chars) = t.walk (names store.root.chars))
    (hsame : Tree.SameBelow t t' (Tree.resolve (names store.root.chars))) :
    t'.read path = t.read path := by
  have hup := up_not_mem_way hpath
  obtain ⟨pre, hpre, hstem, rfl, hnames⟩ := documentPath_way hpath
  have hpiece : IsPiece (ending (keyStem key)) := by
    rcases hstem with hstem | hstem
    · rw [ending_of_isStem hstem]
      exact (isName_documentName hstem).isPiece
    · rw [hstem]
      exact isPiece_up
  exact Tree.read_congr hpre hpiece hnames hup hwalk hsame

/-! ## Writes -/

/-- The place is below the root of the store. -/
def IsInside (store : Store) (place : Place) : Prop :=
  ∃ rest, rest ≠ [] ∧ place = Tree.resolve (names store.root.chars) ++ rest

/-- What there is at a place is what there was, or a directory where there was nothing that is the
root of the store or on the way to it. -/
def SparedOutside (store : Store) (t t' : Tree) (place : Place) : Prop :=
  t'.entry? place = t.entry? place ∨
    (t.entry? place = none ∧ t'.entry? place = some .directory ∧
      ∃ before after, names store.root.chars = before ++ after ∧ place = Tree.resolve before)

theorem spared_outside {pre : List Char} {ns : List Name} {n : Name} {place : Place}
    (hnames : names pre = names store.root.chars ++ ns) (hup : ∀ n ∈ ns, n ≠ ['.', '.'])
    (h : Tree.Spared (names pre ++ [n]) t t' place) (hplace : ¬ store.IsInside place) :
    store.SparedOutside t t' place := by
  rcases h with h | ⟨hnone, hdirectory, before, after, hsplit, hafter, rfl⟩
  · exact .inl h
  · refine .inr ⟨hnone, hdirectory, ?_⟩
    obtain ⟨after, last, rfl⟩ := List.eq_nil_or_concat' after |>.resolve_left hafter
    rw [← List.append_assoc] at hsplit
    obtain ⟨hsplit, -⟩ := List.append_inj' hsplit rfl
    rw [hnames] at hsplit
    rcases List.append_eq_append_iff.mp hsplit with ⟨l, rfl, rfl⟩ | ⟨l, hroot, -⟩
    · -- Behind the root the way goes on below it, or stays where it is.
      have hl := fun n hn => hup n (List.mem_append_left after hn)
      have hresolve := Tree.resolve_append (names store.root.chars) hl
      by_cases hrest : l.filter (· ≠ ['.']) = []
      · rw [hrest, List.append_nil] at hresolve
        exact ⟨names store.root.chars, [], by simp, hresolve⟩
      · exact absurd ⟨_, hrest, hresolve⟩ hplace
    · exact ⟨before, l, hroot, rfl⟩

theorem isInside_child {pre : List Char} {ns : List Name} {n : Name} (hpre : IsPrefix pre)
    (hn : IsName n) (hnames : names pre = names store.root.chars ++ ns)
    (hup : ∀ n ∈ ns, n ≠ ['.', '.']) : store.IsInside (Tree.resolve (names (pre ++ n))) := by
  refine ⟨ns.filter (· ≠ ['.']) ++ [n], by simp, ?_⟩
  rw [Tree.resolve_child hpre hn, hnames, Tree.resolve_append _ hup, List.append_assoc]

/-- At every point of a write, what is not below the root of the store is as it was, but that the
root, with the directories above it, may have been made. -/
theorem write_confined (hpath : store.documentPath collection key = .ok path)
    (hsuffix : Drawn suffix) (hvalid : t.Valid)
    (hbegan : Began (store.write suffix collection key document) trace) (hsteps : Steps t trace t')
    {place : Place} (hplace : ¬ store.IsInside place) : store.SparedOutside t t' place := by
  have hup := up_not_mem_way hpath
  obtain ⟨pre, hpre, hstem | hdot, rfl, hnames⟩ := documentPath_way hpath
  · rw [ending_of_isStem hstem] at hpath
    have hbeside := beside_document hsuffix hpre hstem
    obtain ⟨t₁, hspared, hreplacing⟩ := write_cut hbeside hpath hvalid hbegan hsteps
    have hstaged : place ≠ Tree.resolve (names (pre ++ stagedName (keyStem key) suffix)) := by
      rintro rfl
      exact hplace (isInside_child hpre hbeside.staged hnames hup)
    have hfile : place ≠ Tree.resolve (names (pre ++ documentName (keyStem key))) := by
      rintro rfl
      exact hplace (isInside_child hpre hbeside.name hnames hup)
    have hsame : t'.entry? place = t₁.entry? place := by
      cases hrenamed : renamed trace with
      | false =>
        rw [hrenamed] at hreplacing
        exact hreplacing.entry?_of_not_moved hpre hbeside.staged hstaged
      | true =>
        rw [hrenamed] at hreplacing
        obtain ⟨-, -, hsame⟩ := hreplacing.entries_of_moved hpre hbeside.staged hbeside.name
        exact hsame place hstaged hfile
    rw [SparedOutside, hsame]
    exact spared_outside hnames hup (hspared place) hplace
  · rw [hdot, ending_dot] at hpath
    obtain ⟨-, made, hway, hmade⟩ := write_up hpre hpath hbegan hsteps
    exact spared_outside hnames hup (steps_spared hway hmade ['.', '.'] place) hplace

/-- A write reads no file. -/
theorem write_isNoRead (store : Store) (suffix : List Char) (collection : Path) (key : String)
    (document : Json.Value) :
    CallsOnly IsNoRead (store.write suffix collection key document) := by
  rw [write_eq]
  rcases store.documentPath collection key with error | path
  · exact callsOnly_pure _
  · refine callsOnly_bind ?_ fun ready => ?_
    · split
      · rename_i parent _
        have hway : CallsOnly (OnWay (names parent.chars)) (makeDirectories parent) :=
          makeLevels_onWay _ ⟨[], (List.append_nil _).symm⟩
        exact fun trace c h => isNoRead_onWay (hway trace c h)
      · exact callsOnly_pure _
    · match ready with
      | .error error => exact callsOnly_pure _
      | .ok () => exact callsOnly_bind (replace_isNoRead _ _ _) fun _ => callsOnly_pure _

/-! ## Keys of two dots -/

/-- Where the key is two dots with an extension, no document is found. -/
theorem read_ne_of_isUp (hpath : store.documentPath collection key = .ok path) (hup : IsUp key)
    (content : Bytes) : t.read path ≠ .ok content := by
  intro hread
  obtain ⟨hkey, -⟩ := documentPath_eq_ok hpath
  exact stem_ne_of_read hpath hread ((keyStem_eq_dot_iff (isName_of_isKey hkey)).mpr hup)

/-- And none is stored. -/
theorem write_ne_of_isUp (hpath : store.documentPath collection key = .ok path) (hup : IsUp key)
    {result : Except StoreError Unit} (hsteps : Steps t trace t')
    (h : Runs (store.write suffix collection key document) trace result) : result ≠ .ok () := by
  obtain ⟨hkey, -⟩ := documentPath_eq_ok hpath
  have hdot := (keyStem_eq_dot_iff (isName_of_isKey hkey)).mpr hup
  obtain ⟨pre, hpre, -, rfl⟩ := documentPath_ending hpath
  rw [hdot, ending_dot] at hpath
  obtain ⟨hrenamed, -⟩ := write_up hpre hpath h.began hsteps
  intro hresult
  rw [(renamed_write hpre isPiece_up hpath h).mpr hresult] at hrenamed
  cases hrenamed

/-! ## Confinement -/

/-- An address has a path just if its collection, seen from the root, is made of names and its key
is a name; where it has none, nothing is asked of the disk. The path of a document is that of the
root, with at least one name behind it, of which the last ends in `.json`. Only a key of two dots
with an extension stands for the directory above that of its collection, where no document is found
or stored. What a read comes to is told by the way to the root and what there is below it, and at
every point of a write no file was read, and what is not below the root is as it was, but that the
root may have been made, with the directories above it. -/
theorem address_confined (store : Store) (collection : Path) (key : String) :
    ((∃ path, store.documentPath collection key = .ok path) ↔ IsAddress collection key) ∧
    (¬ IsAddress collection key →
      (∀ (α : Type) (decode : Bytes → Option α),
        store.read decode collection key = pure (.error .invalidPath)) ∧
      ∀ suffix document,
        store.write suffix collection key document = pure (.error .invalidPath)) ∧
    ∀ path, store.documentPath collection key = .ok path →
      (¬ IsUp key → ∃ ns : List Name, seenFromRoot collection.parts = ns.map .name ∧
        IsStem (keyStem key) ∧
        path.parts = store.root.parts ++ (ns ++ [documentName (keyStem key)]).map .name) ∧
      (IsUp key → path.parts = store.root.parts ++ seenFromRoot collection.parts ++ [.up] ∧
        (∀ (t : Tree) (content : Bytes), t.read path ≠ .ok content) ∧
        ∀ suffix document trace result t t', Steps t trace t' →
          Runs (store.write suffix collection key document) trace result → result ≠ .ok ()) ∧
      (∀ t t' : Tree, t'.walk (names store.root.chars) = t.walk (names store.root.chars) →
        Tree.SameBelow t t' (Tree.resolve (names store.root.chars)) →
        ∀ (α : Type) (decode : Bytes → Option α), ∃ result,
          Disk.run none (store.read decode collection key) t = (some result, t) ∧
            Disk.run none (store.read decode collection key) t' = (some result, t')) ∧
      ∀ suffix document trace t t', Drawn suffix → t.Valid → Steps t trace t' →
        Began (store.write suffix collection key document) trace →
        (∀ e ∈ trace, IsNoRead e.call) ∧
          ∀ place, ¬ store.IsInside place → store.SparedOutside t t' place := by
  refine ⟨?_, ?_, fun path hpath => ⟨?_, ?_, ?_, ?_⟩⟩
  · rcases documentPath_dichotomy store collection key with ⟨haddress, hpath⟩ | ⟨haddress, hpath⟩
    · exact ⟨fun _ => haddress, fun _ => hpath⟩
    · rw [hpath]
      exact ⟨nofun, fun h => absurd h haddress⟩
  · intro h
    rcases documentPath_dichotomy store collection key with ⟨haddress, -⟩ | ⟨-, hpath⟩
    · exact absurd haddress h
    · constructor
      · intro α decode
        rw [read_eq, hpath]
      · intro suffix document
        rw [write_eq, hpath]
  · intro hup
    obtain ⟨hkey, -⟩ := documentPath_eq_ok hpath
    obtain ⟨hparts, hnames⟩ := documentPath_parts hpath
    obtain ⟨ns, hns⟩ := exists_names hnames
    have hdot := mt (keyStem_eq_dot_iff (isName_of_isKey hkey)).mp hup
    obtain ⟨-, -, hstem, -⟩ := documentPath_ending hpath
    refine ⟨ns, by rw [← parts_belowRoot, ← hns, below], hstem.resolve_right hdot, ?_⟩
    rw [hparts, hns, lastPart, if_neg hdot, List.map_append, List.append_assoc]
    rfl
  · intro hup
    obtain ⟨hkey, -⟩ := documentPath_eq_ok hpath
    have hdot := (keyStem_eq_dot_iff (isName_of_isKey hkey)).mpr hup
    refine ⟨?_, fun t => read_ne_of_isUp hpath hup, fun _ _ _ _ _ _ hsteps h =>
      write_ne_of_isUp hpath hup hsteps h⟩
    rw [(documentPath_parts hpath).1, below, parts_belowRoot, lastPart, if_pos hdot]
  · intro t t' hwalk hsame α decode
    have hread := read_confined hpath hwalk hsame
    exact ⟨_, run_read hpath t, hread ▸ run_read hpath t'⟩
  · intro suffix document trace t t' hsuffix hvalid hsteps hbegan
    exact ⟨fun e he => hbegan.callsOnly (write_isNoRead _ _ _ _ _) he,
      fun place => write_confined hpath hsuffix hvalid hbegan hsteps⟩

/-- A store in a directory of its own. -/
def inner : Store where
  root := ⟨"/r".toList⟩

/-- A tree with a file beside the root of that store. -/
def besides : Tree where
  entries := [(["x".toList], .file [])]

theorem sameBelow_besides : Tree.SameBelow {} besides ["r".toList] := by
  intro rest hrest
  rw [Tree.entry?_of_ne (by simp), Tree.entry?_of_ne (by simp)]
  rfl

/-- A write makes the root and the collection, and nothing beside them. -/
theorem address_confined_rehearsed :
    inner.read some shelf ".." = pure (.error .invalidPath) ∧
      (∃ result, Disk.run none (inner.read some shelf "k") {} = (some result, {}) ∧
        Disk.run none (inner.read some shelf "k") besides = (some result, besides)) ∧
      parts ⟨"/r/c/k.json".toList⟩ =
        inner.root.parts ++ [.name "c".toList, .name "k.json".toList] ∧
      ∃ trace t', Runs (inner.write "abcdef".toList shelf "k" (.bool true)) trace (.ok ()) ∧
        Steps {} trace t' ∧ t'.entry? ["r".toList] = some .directory ∧
        ∀ place, ¬ inner.IsInside place → inner.SparedOutside {} t' place := by
  have hpath : inner.documentPath shelf "k" = .ok ⟨"/r/c/k.json".toList⟩ := by
    decide +kernel
  have hresult : (onDisk inner shelf "k" (.bool true) {}).1 = some (.ok ()) := by
    decide +kernel
  have hroot : Tree.entry? (onDisk inner shelf "k" (.bool true) {}).2.1 ["r".toList] =
      some .directory := by
    decide +kernel
  obtain ⟨hruns, hsteps⟩ := runs_onDisk hresult
  obtain ⟨-, hrejected, -⟩ := address_confined inner shelf ".."
  obtain ⟨-, -, haccepted⟩ := address_confined inner shelf "k"
  obtain ⟨hparts, -, hread, hwrite⟩ := haccepted _ hpath
  have hkey : ¬ IsUp "k" := by
    rintro ⟨extension, heq, -⟩
    cases heq
  obtain ⟨ns, hns, -, hparts⟩ := hparts hkey
  have hnames : seenFromRoot shelf.parts = [.name "c".toList] := by
    decide +kernel
  have hwalk : besides.walk (names inner.root.chars) = Tree.walk {} (names inner.root.chars) := by
    decide +kernel
  have hplace : Tree.resolve (names inner.root.chars) = ["r".toList] := by
    decide +kernel
  refine ⟨(hrejected fun h => h.key.ne_dots rfl).1 _ some,
    hread _ _ hwalk (hplace ▸ sameBelow_besides) _ some, ?_, _, _, hruns, hsteps, hroot,
    (hwrite _ _ _ _ _ drawn_abcdef Tree.valid_empty hsteps hruns.began).2⟩
  rw [hparts, List.map_append, ← hns, hnames]
  decide +kernel

/-- A key of two dots with an extension is accepted, and leads out of the store. -/
theorem address_confined_dotted :
    (¬ ∀ (store : Store) (collection path : Path) (key : String),
      store.documentPath collection key = .ok path →
      ∃ (ns : List Name) (stem : List Char),
        path.parts = store.root.parts ++ (ns ++ [stem ++ ".json".toList]).map .name) ∧
    ¬ ∀ (store : Store) (collection path : Path) (key : String),
      store.documentPath collection key = .ok path →
      store.IsInside (Tree.resolve (names path.chars)) := by
  have hpath : inner.documentPath ⟨['/']⟩ "..x" = .ok ⟨"/r/..".toList⟩ := by
    decide +kernel
  constructor
  · intro h
    obtain ⟨ns, stem, hparts⟩ := h _ _ _ _ hpath
    have hlast := congrArg List.getLast? hparts
    rw [List.map_append, ← List.append_assoc, List.map_singleton, List.getLast?_concat] at hlast
    have hup : (parts ⟨"/r/..".toList⟩).getLast? = some .up := by
      decide +kernel
    rw [hup] at hlast
    cases hlast
  · intro h
    obtain ⟨rest, hrest, hplace⟩ := h _ _ _ _ hpath
    have hroot : Tree.resolve (names "/r/..".toList) = [] := by
      decide +kernel
    rw [hroot] at hplace
    exact hrest (List.append_eq_nil_iff.mp hplace.symm).2

end UpdateAgent.Store
