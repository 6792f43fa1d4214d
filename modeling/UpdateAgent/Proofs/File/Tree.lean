import UpdateAgent.Proofs.File.Path
import UpdateAgent.File.Tree
import Mathlib.Data.List.Induction

/-!
# What the operations on a tree leave as it was

A path is a way to a directory (`walk`) and a name in it (`Leads`). An operation that comes off does
so at the place that its path leads to (`create_ok`, `rename_ok`); what a file beside that place is
found to hold stays the same (`read_of_keeps`), since every way stays open as long as the
directories of a tree stay what they are (`walk_ok_of_keeps`).
-/

namespace UpdateAgent.Tree

open UpdateAgent.Path

variable {t t' : Tree} {d place source target : Place} {n : Name} {entry : Entry}

/-! ## Entries -/

@[simp]
theorem entry?_nil : t.entry? [] = some .directory := by
  rw [ entry?, if_pos rfl]

theorem entry?_of_ne (h : place ≠ []) : t.entry? place = t.entries.lookup place := by
  rw [ entry?, if_neg h]

theorem lookup_filter (keep : Place × Entry → Bool) (entries : List (Place × Entry))
    (h : ∀ entry, keep (place, entry) = true) :
    (entries.filter keep).lookup place = entries.lookup place := by
  induction entries with
  | nil => rfl
  | cons head entries ih =>
    obtain ⟨other, entry⟩ := head
    by_cases hother : place = other
    · subst hother
      simp [h]
    · have hne : (place == other) = false := by simpa using hother
      cases hkeep : keep (other, entry) <;> simp [hkeep, List.lookup_cons, hne, ih]

theorem lookup_eq_none (entries : List (Place × Entry)) (h : ∀ e ∈ entries, e.1 ≠ place) :
    entries.lookup place = none := by
  rw [List.lookup_eq_none_iff]
  intro e he
  simpa using (h e he).symm

theorem entry?_insert_self (h : place ≠ []) :
    entry? (t.insert place entry) place = some entry := by
  rw [entry?_of_ne h]
  simp [insert]

theorem entry?_erase_self (h : place ≠ []) : entry? (t.erase place) place = none := by
  rw [entry?_of_ne h]
  exact lookup_eq_none _ fun e he => by simpa using (List.mem_filter.mp he).2

theorem entry?_erase_of_ne {other : Place} (h : other ≠ place) :
    entry? (t.erase place) other = t.entry? other := by
  by_cases hother : other = []
  · simp [hother]
  · rw [entry?_of_ne hother, entry?_of_ne hother]
    exact lookup_filter _ _ fun _ => by simp [h]

theorem entry?_insert_of_ne {other : Place} (h : other ≠ place) :
    entry? (t.insert place entry) other = t.entry? other := by
  by_cases hother : other = []
  · simp [hother]
  · have hne : (other == place) = false := by simpa using h
    rw [← entry?_erase_of_ne (t := t) h, entry?_of_ne hother, entry?_of_ne hother, insert,
      List.lookup_cons, hne]

theorem lookup_map (f : Place → Place) (place : Place) {other : Place}
    (entries : List (Place × Entry)) (h : ∀ e ∈ entries, f e.1 = other ↔ e.1 = place) :
    (entries.map fun (p, e) => (f p, e)).lookup other = entries.lookup place := by
  induction entries with
  | nil => rfl
  | cons head entries ih =>
    obtain ⟨p, e⟩ := head
    have hhead := h (p, e) List.mem_cons_self
    have ih := ih fun e he => h e (List.mem_cons_of_mem _ he)
    by_cases hp : p = place
    · have hother : (other == f p) = true := by simpa using (hhead.mpr hp).symm
      have hplace : (place == p) = true := by simpa using hp.symm
      rw [List.map_cons, List.lookup_cons, List.lookup_cons, hother, hplace]
    · have hother : (other == f p) = false := by
        simpa using fun heq => hp (hhead.mp (Eq.symm heq))
      have hplace : (place == p) = false := by simpa using Ne.symm hp
      rw [List.map_cons, List.lookup_cons, List.lookup_cons, hother, hplace]
      exact ih

theorem isBelow_iff {place directory : Place} :
    isBelow place directory = true ↔ ∃ rest, place = directory ++ rest := by
  rw [isBelow, List.isPrefixOf_iff_prefix]
  exact ⟨fun ⟨rest, h⟩ => ⟨rest, h.symm⟩, fun ⟨rest, h⟩ => ⟨rest, h.symm⟩⟩

@[simp]
theorem isBelow_append (directory rest : Place) : isBelow (directory ++ rest) directory = true :=
  isBelow_iff.mpr ⟨rest, rfl⟩

@[simp]
theorem isBelow_self (directory : Place) : isBelow directory directory = true :=
  isBelow_iff.mpr ⟨[], by simp⟩

theorem isBelow_concat {place directory : Place} (h : isBelow place directory = true) (n : Name) :
    isBelow (place ++ [n]) directory = true := by
  obtain ⟨rest, rfl⟩ := isBelow_iff.mp h
  rw [List.append_assoc]
  exact isBelow_append directory (rest ++ [n])

/-- Where it moved to, there is what was moved, with all that lies below it. -/
theorem entry?_move_below (hsource : source ≠ []) (htarget : target ≠ []) (rest : Place)
    (hempty : rest ≠ [] → t.entry? (target ++ rest) = none) :
    entry? (t.move source target) (target ++ rest) = t.entry? (source ++ rest) := by
  have hmoved : ((t.entries.filter fun e => isBelow e.1 source).map fun (p, e) =>
      (target ++ p.drop source.length, e)).lookup (target ++ rest) =
        t.entries.lookup (source ++ rest) := by
    rw [lookup_map (fun p => target ++ p.drop source.length) (source ++ rest), lookup_filter]
    · exact fun _ => isBelow_append source rest
    · intro e he
      obtain ⟨below, hbelow⟩ := isBelow_iff.mp (List.mem_filter.mp he).2
      simp [hbelow]
  have hkept (entries : List (Place × Entry)) (hsub : ∀ e ∈ entries, e ∈ t.entries) :
      (entries.filter (·.1 ≠ target)).lookup (target ++ rest) = none := by
    refine lookup_eq_none _ fun e he heq => ?_
    obtain ⟨he, hne⟩ := List.mem_filter.mp he
    by_cases hrest : rest = []
    · simp [heq, hrest] at hne
    · have hnone := hempty hrest
      rw [entry?_of_ne (List.append_ne_nil_of_left_ne_nil htarget rest),
        List.lookup_eq_none_iff] at hnone
      simpa [heq] using hnone e (hsub e he)
  rw [entry?_of_ne (List.append_ne_nil_of_left_ne_nil hsource rest),
    entry?_of_ne (List.append_ne_nil_of_left_ne_nil htarget rest)]
  simp only [move, List.partition_eq_filter_filter, List.lookup_append]
  rw [hmoved, hkept _ fun e he => (List.mem_filter.mp he).1, Option.or_none]

theorem entry?_move_target (hsource : source ≠ []) (htarget : target ≠ []) :
    entry? (t.move source target) target = t.entry? source := by
  have hmoved := entry?_move_below (t := t) hsource htarget [] fun hnil => absurd rfl hnil
  simpa using hmoved

/-- Where it was moved from, nothing is left. -/
theorem entry?_move_source {other : Place} (hsource : isBelow other source = true)
    (htarget : isBelow other target = false) (hother : other ≠ []) :
    entry? (t.move source target) other = none := by
  rw [entry?_of_ne hother]
  refine lookup_eq_none _ fun e he heq => ?_
  simp only [move, List.partition_eq_filter_filter] at he
  rcases List.mem_append.mp he with hmoved | hkept
  · obtain ⟨e', -, rfl⟩ := List.mem_map.mp hmoved
    rw [← heq] at htarget
    simp at htarget
  · have hbelow := (List.mem_filter.mp (List.mem_filter.mp hkept).1).2
    simp [heq, hsource] at hbelow

/-- What is neither below the one place nor below the other stays. -/
theorem entry?_move_of_not_below {other : Place} (hsource : isBelow other source = false)
    (htarget : isBelow other target = false) :
    entry? (t.move source target) other = t.entry? other := by
  by_cases hother : other = []
  · simp [hother]
  · have hne : other ≠ target := by
      rintro rfl
      simp at htarget
    have hmoved (entries : List (Place × Entry)) : (entries.map fun (p, e) =>
        (target ++ p.drop source.length, e)).lookup other = none := by
      refine lookup_eq_none _ fun e he => ?_
      obtain ⟨e, -, rfl⟩ := List.mem_map.mp he
      rintro rfl
      simp at htarget
    rw [entry?_of_ne hother, entry?_of_ne hother]
    simp only [move, List.partition_eq_filter_filter, List.lookup_append]
    rw [hmoved, Option.none_or, lookup_filter, lookup_filter]
    · simp [hsource]
    · simp [hne]

/-! ## Ways -/

/-- Follows names from the root. -/
def walk (t : Tree) (names : List Name) : Except FileError Place :=
  names.foldlM t.enter []

theorem walk_append (ns ms : List Name) :
    t.walk (ns ++ ms) = (t.walk ns).bind fun d => ms.foldlM t.enter d :=
  List.foldlM_append

theorem walk_concat (ns : List Name) (n : Name) :
    t.walk (ns ++ [n]) = (t.walk ns).bind fun d => t.enter d n := by
  rw [walk_append]
  exact congrArg _ (funext fun d => bind_pure (t.enter d n))

/-- What is entered by a name of its own: a directory that is there. -/
theorem enter_name (hdot : n ≠ ['.']) (hdots : n ≠ ['.', '.']) :
    t.enter d n = (lookup d n).bind fun x =>
      match t.entry? x with
      | none => .error .notFound
      | some (.file _) => .error .notDirectory
      | some .directory => .ok x := by
  rw [enter, if_neg hdot, if_neg hdots]
  cases lookup d n <;> rfl

theorem lookup_eq_ok_iff {x : Place} :
    lookup d n = .ok x ↔ (Utf8.encode n).length ≤ nameLimit ∧ x = d ++ [n] := by
  rw [lookup]
  by_cases h : nameLimit < (Utf8.encode n).length
  · simp [h, Nat.not_le.mpr h]
  · simp [h, Nat.not_lt.mp h, eq_comm]

/-- Every directory of the one tree is one of the other. -/
def Keeps (t t' : Tree) : Prop :=
  ∀ place, t.entry? place = some .directory → t'.entry? place = some .directory

theorem enter_name_ok_iff (hdot : n ≠ ['.']) (hdots : n ≠ ['.', '.']) {x : Place} :
    t.enter d n = .ok x ↔ lookup d n = .ok x ∧ t.entry? x = some .directory := by
  rw [enter_name hdot hdots]
  constructor
  · intro h
    rcases hlookup : lookup d n with _ | y
    · simp [hlookup, Except.bind] at h
    · rcases hentry : t.entry? y with _ | _ | _
      · simp [hlookup, hentry, Except.bind] at h
      · simp only [hlookup, hentry, Except.bind] at h
        cases h
        exact ⟨rfl, hentry⟩
      · simp [hlookup, hentry, Except.bind] at h
  · rintro ⟨hlookup, hentry⟩
    simp only [hlookup, hentry, Except.bind]

/-- One goes where one is, to the directory above, or into a directory by its name. -/
theorem enter_ok_iff {x : Place} : t.enter d n = .ok x ↔ (n = ['.'] ∧ x = d) ∨
    (n = ['.', '.'] ∧ x = d.dropLast) ∨
    (n ≠ ['.'] ∧ n ≠ ['.', '.'] ∧ lookup d n = .ok x ∧ t.entry? x = some .directory) := by
  by_cases hdot : n = ['.']
  · simp [enter, hdot, eq_comm]
  · by_cases hdots : n = ['.', '.']
    · simp [enter, hdots, eq_comm]
    · simp [enter_name_ok_iff hdot hdots, hdot, hdots]

theorem enter_ok_of_keeps (hkeeps : t.Keeps t') {x : Place} (h : t.enter d n = .ok x) :
    t'.enter d n = .ok x := by
  rcases enter_ok_iff.mp h with hdot | hdots | ⟨hdot, hdots, hlookup, hentry⟩
  · exact enter_ok_iff.mpr (.inl hdot)
  · exact enter_ok_iff.mpr (.inr (.inl hdots))
  · exact enter_ok_iff.mpr (.inr (.inr ⟨hdot, hdots, hlookup, hkeeps x hentry⟩))

/-- A way through directories stays open as long as they are directories. -/
theorem walk_ok_of_keeps (hkeeps : t.Keeps t') {ns : List Name} (h : t.walk ns = .ok d) :
    t'.walk ns = .ok d := by
  -- On the last name, as the directory that the way leads to so far has to be kept too.
  induction ns using List.reverseRecOn generalizing d with
  | nil => exact h
  | append_singleton ns n ih =>
    rw [walk_concat] at h ⊢
    rcases hwalk : t.walk ns with _ | x
    · simp [hwalk, Except.bind] at h
    · rw [hwalk] at h
      rw [ih hwalk]
      exact enter_ok_of_keeps hkeeps h

theorem keeps_insert (entry : Entry) (h : t.entry? place ≠ some .directory) :
    t.Keeps (t.insert place entry) := by
  intro other hother
  rw [entry?_insert_of_ne]
  · exact hother
  · rintro rfl
    exact h hother

/-! ## Operations that come off -/

/-- The path leads to a name in a directory. -/
structure Leads (t : Tree) (p : Path) (d : Place) (n : Name) : Prop where
  locate : ∃ isSlashed, t.locate p = .ok ⟨d, .name n, isSlashed⟩
  lookup : lookup d n = .ok (d ++ [n])

/-- A path that ends in a name follows the names before it. -/
theorem locate_name {p : Path} {l : Location} (h : t.locate p = .ok l) (hl : l.last = .name n) :
    ∃ before, names p.chars = before ++ [n] ∧ t.walk before = .ok l.directory ∧
      n ≠ ['.'] ∧ n ≠ ['.', '.'] := by
  rw [locate] at h
  simp only [bind, Except.bind, pure, Except.pure] at h
  split at h
  · cases h
  · split at h
    · cases h
      cases hl
    · rename_i last before hnames
      split at h
      · cases h
      · rename_i d hwalk
        have hnames : names p.chars = before.reverse ++ [last] := by
          rw [names, ← List.reverse_reverse (List.filter ..), hnames, List.reverse_cons]
        by_cases hdot : last = ['.']
        · rw [if_pos hdot] at h
          cases h
          cases hl
        · by_cases hdots : last = ['.', '.']
          · rw [if_neg hdot, if_pos hdots] at h
            cases h
            cases hl
          · rw [if_neg hdot, if_neg hdots] at h
            cases h
            cases hl
            exact ⟨before.reverse, hnames, hwalk, hdot, hdots⟩

theorem Leads.walk {p : Path} (h : t.Leads p d n) :
    ∃ before, names p.chars = before ++ [n] ∧ t.walk before = .ok d ∧
      n ≠ ['.'] ∧ n ≠ ['.', '.'] := by
  obtain ⟨isSlashed, hlocate⟩ := h.locate
  exact locate_name hlocate rfl

/-- What an operation that came off did at the place that its path leads to. It fails where the path
does not end in a name. -/
theorem leads_of_ok {α : Type} {p : Path} {f : Location → Except FileError α} {a : α}
    (g : Bool → Place → Except FileError α) (h : (t.locate p).bind f = .ok a)
    (hhere : ∀ d isSlashed, f ⟨d, .here, isSlashed⟩ ≠ .ok a)
    (hup : ∀ d isSlashed, f ⟨d, .up, isSlashed⟩ ≠ .ok a)
    (hname : ∀ d n isSlashed, f ⟨d, .name n, isSlashed⟩ = .ok a →
      (Tree.lookup d n).bind (g isSlashed) = .ok a) :
    ∃ d n isSlashed, t.Leads p d n ∧ g isSlashed (d ++ [n]) = .ok a := by
  rcases hlocate : t.locate p with _ | ⟨d, last, isSlashed⟩
  · rw [hlocate] at h
    cases h
  · rw [hlocate] at h
    match last with
    | .here => exact absurd h (hhere d isSlashed)
    | .up => exact absurd h (hup d isSlashed)
    | .name n =>
      have h := hname d n isSlashed h
      rcases hlookup : Tree.lookup d n with _ | x
      · rw [hlookup] at h
        cases h
      · obtain ⟨-, rfl⟩ := lookup_eq_ok_iff.mp hlookup
        rw [hlookup] at h
        exact ⟨d, n, isSlashed, ⟨⟨isSlashed, hlocate⟩, hlookup⟩, h⟩

/-- A directory was made where there was nothing. -/
theorem makeDirectory_ok {p : Path} (h : t.makeDirectory p = .ok t') :
    ∃ d n, t.Leads p d n ∧ t.entry? (d ++ [n]) = none ∧ t' = t.insert (d ++ [n]) .directory := by
  obtain ⟨d, n, -, hleads, hmade⟩ := leads_of_ok _ h nofun nofun fun _ _ _ h => h
  refine ⟨d, n, hleads, ?_⟩
  rcases hentry : t.entry? (d ++ [n]) with _ | _
  · rw [hentry] at hmade
    exact ⟨rfl, (Except.ok.inj hmade).symm⟩
  · rw [hentry] at hmade
    cases hmade

/-- What making a file does at a place. -/
def createAt (t : Tree) (x : Place) : Except FileError Tree :=
  match t.entry? x with
  | some .directory => .error .isDirectory
  | _ => .ok (t.insert x (.file []))

/-- A file was made, in place of another or of nothing. -/
theorem create_ok {p : Path} (h : t.create p = .ok t') :
    ∃ d n, t.Leads p d n ∧ t.entry? (d ++ [n]) ≠ some .directory ∧
      t' = t.insert (d ++ [n]) (.file []) := by
  obtain ⟨d, n, -, hleads, hmade⟩ := leads_of_ok (fun _ => t.createAt) h nofun nofun
    fun d n isSlashed h => by
      cases isSlashed
      · exact h
      · cases h
  refine ⟨d, n, hleads, ?_⟩
  rw [createAt] at hmade
  rcases hentry : t.entry? (d ++ [n]) with _ | _ | content
  · rw [hentry] at hmade
    exact ⟨nofun, (Except.ok.inj hmade).symm⟩
  · rw [hentry] at hmade
    cases hmade
  · rw [hentry] at hmade
    exact ⟨nofun, (Except.ok.inj hmade).symm⟩

/-- What removing a file does at a place. -/
def removeAt (t : Tree) (isSlashed : Bool) (x : Place) : Except FileError Tree :=
  match t.entry? x with
  | none => .error .notFound
  | some .directory => .error .isDirectory
  | some (.file _) => if isSlashed then .error .notDirectory else .ok (t.erase x)

/-- A file was removed. -/
theorem remove_ok {p : Path} (h : t.remove p = .ok t') :
    ∃ d n, t.Leads p d n ∧ t.entry? (d ++ [n]) ≠ some .directory ∧ t' = t.erase (d ++ [n]) := by
  obtain ⟨d, n, isSlashed, hleads, hremoved⟩ := leads_of_ok t.removeAt h nofun nofun
    fun _ _ _ h => h
  refine ⟨d, n, hleads, ?_⟩
  rw [removeAt] at hremoved
  rcases hentry : t.entry? (d ++ [n]) with _ | _ | content
  · rw [hentry] at hremoved
    cases hremoved
  · rw [hentry] at hremoved
    cases hremoved
  · rw [hentry] at hremoved
    cases isSlashed
    · exact ⟨nofun, (Except.ok.inj hremoved).symm⟩
    · cases hremoved

/-- What is found at a place. -/
def findAt (t : Tree) (isSlashed : Bool) (x : Place) : Except FileError (Place × Entry) :=
  match t.entry? x with
  | none => .error .notFound
  | some .directory => .ok (x, .directory)
  | some (.file content) => if isSlashed then .error .notDirectory else .ok (x, .file content)

/-- What was written took the place of the content of a file. -/
theorem write_eq (t : Tree) (p : Path) (new : Bytes) :
    t.write p new = t ∨ ∃ d n content, t.Leads p d n ∧ t.entry? (d ++ [n]) = some (.file content) ∧
      t.write p new = t.insert (d ++ [n]) (.file new) := by
  rw [Tree.write]
  rcases hfind : t.find p with _ | ⟨x, _ | content⟩
  · exact .inl rfl
  · exact .inl rfl
  · obtain ⟨d, n, isSlashed, hleads, hfound⟩ := leads_of_ok t.findAt hfind nofun nofun
      fun _ _ _ h => h
    rw [findAt] at hfound
    rcases hentry : t.entry? (d ++ [n]) with _ | _ | content'
    · rw [hentry] at hfound
      cases hfound
    · rw [hentry] at hfound
      cases hfound
    · rw [hentry] at hfound
      cases isSlashed
      · cases hfound
        exact .inr ⟨d, n, _, hleads, hentry, rfl⟩
      · cases hfound

/-- What moving does from a place to another. -/
def moveAt (t : Tree) (isSlashed : Bool) (y x : Place) : Except FileError Tree :=
  match t.entry? y with
  | none => .error .notFound
  | some entry =>
    if entry ≠ .directory ∧ isSlashed then .error .notDirectory
    else (t.checkMove y x entry).bind fun _ => .ok (if y = x then t else t.move y x)

/-- A file or a directory was moved, unless it was there already. -/
theorem rename_ok {p q : Path} (h : t.rename p q = .ok t') :
    ∃ d m d' n entry, t.Leads p d m ∧ t.Leads q d' n ∧ t.entry? (d ++ [m]) = some entry ∧
      t.checkMove (d ++ [m]) (d' ++ [n]) entry = .ok () ∧
      t' = if d ++ [m] = d' ++ [n] then t else t.move (d ++ [m]) (d' ++ [n]) := by
  rcases hp : t.locate p with _ | ⟨d, last, isSlashed⟩
  · rw [rename, hp] at h
    cases h
  · rw [rename, hp] at h
    match last with
    | .here => rcases hq : t.locate q with _ | _ <;> rw [hq] at h <;> cases h
    | .up => rcases hq : t.locate q with _ | _ <;> rw [hq] at h <;> cases h
    | .name m =>
      -- The source is looked up before the target.
      obtain ⟨d', n, isSlashed', hleads, hmoved⟩ := leads_of_ok (fun isSlashed' x =>
          (lookup d m).bind fun y => t.moveAt (isSlashed || isSlashed') y x)
          h nofun nofun fun d' n _ h => by
        dsimp only at h
        rcases hlookup : lookup d m with _ | y
        · rw [hlookup] at h
          cases h
        · rcases hentry : t.entry? y with _ | entry
          · simp [hlookup, hentry, bind, Except.bind, throw, throwThe, MonadExceptOf.throw] at h
          · simp only [hlookup, hentry, moveAt, bind, Except.bind, Bool.or_eq_true] at h ⊢
            exact h
      rcases hlookup : lookup d m with _ | y
      · rw [hlookup] at hmoved
        cases hmoved
      · obtain ⟨-, rfl⟩ := lookup_eq_ok_iff.mp hlookup
        rcases hentry : t.entry? (d ++ [m]) with _ | entry
        · simp [hlookup, moveAt, hentry, Except.bind] at hmoved
        · simp only [hlookup, moveAt, hentry, Except.bind] at hmoved
          split at hmoved
          · cases hmoved
          · rcases hcheck : t.checkMove (d ++ [m]) (d' ++ [n]) entry with _ | _
            · simp [hcheck] at hmoved
            · rw [hcheck] at hmoved
              exact ⟨d, m, d', n, entry, ⟨⟨isSlashed, hp⟩, hlookup⟩, hleads, hentry, hcheck,
                (Except.ok.inj hmoved).symm⟩

/-! ## A file in a directory -/

/-- A path can be given to the file system, and its last name follows a way to a directory. -/
structure Reaches (t : Tree) (pre : List Char) (n : Name) (d : Place) : Prop where
  check : check ⟨pre ++ n⟩ = .ok ()
  walk : t.walk (names pre) = .ok d
  lookup : lookup d n = .ok (d ++ [n])

theorem Reaches.of_keeps {pre : List Char} (h : t.Reaches pre n d) (hkeeps : t.Keeps t') :
    t'.Reaches pre n d :=
  ⟨h.check, walk_ok_of_keeps hkeeps h.walk, h.lookup⟩

/-- What a path leads to whose last piece is a name or two dots. -/
theorem locate_piece {pre : List Char} (hpre : IsPrefix pre) (hn : IsPiece n) :
    t.locate ⟨pre ++ n⟩ = (Tree.check ⟨pre ++ n⟩).bind fun _ =>
      (t.walk (names pre)).bind fun d =>
        .ok ⟨d, if n = ['.', '.'] then .up else .name n, false⟩ := by
  have hnames : ((pieces (pre ++ n)).filter (!·.isEmpty)).reverse = n :: (names pre).reverse := by
    rw [← names, names_prefix_append hpre, names_piece hn, List.reverse_append]
    rfl
  have hlast : ((pre ++ n).getLast? == some '/') = false := by
    obtain ⟨c, hc⟩ := List.getLast?_isSome.mpr hn.ne_nil |> Option.isSome_iff_exists.mp
    rw [List.getLast?_append, hc, Option.some_or]
    simpa using fun heq : c = '/' => hn.no_slash (heq ▸ List.mem_of_getLast? hc)
  simp only [locate, hnames, hlast, List.reverse_reverse, if_neg hn.ne_dot]
  by_cases hdots : n = ['.', '.']
  · simp only [if_pos hdots]
    rfl
  · simp only [if_neg hdots]
    rfl

/-- The directory above is no file. -/
theorem read_up {pre : List Char} (hpre : IsPrefix pre) :
    t.read ⟨pre ++ ['.', '.']⟩ = (Tree.check ⟨pre ++ ['.', '.']⟩).bind fun _ =>
      (t.walk (names pre)).bind fun _ => .error .isDirectory := by
  simp only [read, find, locate_piece hpre isPiece_up, bind, Except.bind]
  rcases Tree.check ⟨pre ++ ['.', '.']⟩ with _ | _
  · rfl
  · rcases t.walk (names pre) with _ | d <;> rfl

theorem create_up {pre : List Char} (hpre : IsPrefix pre) :
    t.create ⟨pre ++ ['.', '.']⟩ ≠ .ok t' := by
  intro h
  obtain ⟨d, m, hleads, -, -⟩ := create_ok h
  obtain ⟨before, hnames, -, -, hdots⟩ := hleads.walk
  rw [names_prefix_append hpre, names_piece isPiece_up] at hnames
  exact hdots (List.singleton_inj.mp (List.append_inj' hnames rfl).2).symm

section Child

variable {pre : List Char} (hpre : IsPrefix pre) (hn : IsName n)

include hpre hn

theorem locate_child : t.locate ⟨pre ++ n⟩ = (check ⟨pre ++ n⟩).bind fun _ =>
    (t.walk (names pre)).bind fun d => .ok ⟨d, .name n, false⟩ := by
  rw [locate_piece hpre hn.isPiece, if_neg hn.ne_dots]

theorem Reaches.locate (h : t.Reaches pre n d) :
    t.locate ⟨pre ++ n⟩ = .ok ⟨d, .name n, false⟩ := by
  rw [locate_child hpre hn, h.check, h.walk]
  rfl

/-- What leads to the file is the way to its directory. -/
theorem Leads.reaches {m : Name} (h : t.Leads ⟨pre ++ n⟩ d m) : m = n ∧ t.Reaches pre n d := by
  obtain ⟨isSlashed, hlocate⟩ := h.locate
  rw [locate_child hpre hn] at hlocate
  rcases hcheck : Tree.check ⟨pre ++ n⟩ with _ | _
  · rw [hcheck] at hlocate
    cases hlocate
  · rcases hwalk : t.walk (names pre) with _ | x
    · rw [hcheck, hwalk] at hlocate
      cases hlocate
    · rw [hcheck, hwalk] at hlocate
      cases hlocate
      exact ⟨rfl, hcheck, hwalk, h.lookup⟩

/-- What is written to a file is in the file. -/
theorem Reaches.write (h : t.Reaches pre n d) {content : Bytes}
    (hentry : t.entry? (d ++ [n]) = some (.file content)) (new : Bytes) :
    t.write ⟨pre ++ n⟩ new = t.insert (d ++ [n]) (.file new) := by
  have hfind : t.find ⟨pre ++ n⟩ = .ok (d ++ [n], .file content) := by
    simp [find, h.locate hpre hn, h.lookup, hentry, bind, Except.bind, pure, Except.pure]
  rw [Tree.write, hfind]

/-- What a read comes to at the place that it finds. -/
def contentAt (t : Tree) (place : Place) : Except FileError Bytes :=
  match t.entry? place with
  | none => .error .notFound
  | some .directory => .error .isDirectory
  | some (.file content) => .ok content

theorem read_child : t.read ⟨pre ++ n⟩ = (Tree.check ⟨pre ++ n⟩).bind fun _ =>
    (t.walk (names pre)).bind fun d => (Tree.lookup d n).bind t.contentAt := by
  simp only [read, find, locate_child hpre hn, contentAt, bind, Except.bind]
  rcases Tree.check ⟨pre ++ n⟩ with _ | _
  · rfl
  · rcases t.walk (names pre) with _ | d
    · rfl
    · rcases hlookup : Tree.lookup d n with _ | x
      · simp [hlookup]
      · rcases hentry : t.entry? x with _ | _ | _ <;> simp [hlookup, hentry] <;> rfl

theorem Reaches.read (h : t.Reaches pre n d) :
    t.read ⟨pre ++ n⟩ = t.contentAt (d ++ [n]) := by
  rw [read_child hpre hn, h.check, h.walk]
  simp [Except.bind, h.lookup]

/-- What is read is in a file at the end of an open way. -/
theorem reaches_of_read {content : Bytes} (h : t.read ⟨pre ++ n⟩ = .ok content) :
    ∃ d, t.Reaches pre n d ∧ t.entry? (d ++ [n]) = some (.file content) := by
  rw [read_child hpre hn] at h
  rcases hcheck : Tree.check ⟨pre ++ n⟩ with _ | _
  · rw [hcheck] at h
    cases h
  · rcases hwalk : t.walk (names pre) with _ | d
    · rw [hcheck, hwalk] at h
      cases h
    · rcases hlookup : Tree.lookup d n with _ | x
      · simp [hcheck, hwalk, hlookup, Except.bind] at h
      · obtain ⟨-, rfl⟩ := lookup_eq_ok_iff.mp hlookup
        simp only [hcheck, hwalk, hlookup, Except.bind, contentAt] at h
        refine ⟨d, ⟨hcheck, hwalk, hlookup⟩, ?_⟩
        split at h
        · cases h
        · cases h
        · cases h
          assumption

/-- A file is read as before if its directory is still there and its entry is the same. -/
theorem read_of_keeps (hwalk : t.walk (names pre) = .ok d) (hkeeps : t.Keeps t')
    (hentry : t'.entry? (d ++ [n]) = t.entry? (d ++ [n])) :
    t'.read ⟨pre ++ n⟩ = t.read ⟨pre ++ n⟩ := by
  rw [read_child hpre hn, read_child hpre hn, hwalk, walk_ok_of_keeps hkeeps hwalk]
  rcases Tree.check ⟨pre ++ n⟩ with _ | _
  · rfl
  · rcases hlookup : Tree.lookup d n with _ | x
    · simp [Except.bind, hlookup]
    · obtain ⟨-, rfl⟩ := lookup_eq_ok_iff.mp hlookup
      simp [Except.bind, hlookup, contentAt, hentry]

end Child

/-- What may move does not move into itself, and only onto what holds nothing. -/
theorem checkMove_ok (hne : source ≠ target) (h : t.checkMove source target entry = .ok ()) :
    isBelow target source = false ∧
      (t.entry? target ≠ some .directory ∨ t.isOccupied target = false) := by
  unfold checkMove at h
  by_cases hinto : isBelow target source
  · rw [if_pos ⟨hne, hinto⟩] at h
    cases h
  · refine ⟨by simpa using hinto, ?_⟩
    by_cases honto : isBelow source target
    · rw [if_neg (by simp [hinto]), if_pos ⟨hne, honto⟩] at h
      cases h
    · rw [if_neg (by simp [hinto]), if_neg (by simp [honto])] at h
      rcases hentry : t.entry? target with _ | _ | content
      · exact .inl nofun
      · right
        rw [hentry] at h
        match entry with
        | .file _ => cases h
        | .directory =>
          by_cases hoccupied : t.isOccupied target
          · simp [hne, hoccupied] at h
          · simpa using hoccupied
      · exact .inl nofun

theorem checkMove_file {content : Bytes} (h : t.checkMove source target (.file content) = .ok ()) :
    t.entry? target ≠ some .directory := by
  intro hentry
  simp only [checkMove, hentry] at h
  split at h
  · cases h
  · split at h <;> cases h

/-- A file was moved beside where it was, in place of another or of nothing. -/
theorem rename_child {pre : List Char} (hpre : IsPrefix pre) {m : Name} (hm : IsName m)
    (hn : IsName n) (hne : m ≠ n) {content : Bytes} (hd : t.Reaches pre m d)
    (hentry : t.entry? (d ++ [m]) = some (.file content))
    (h : t.rename ⟨pre ++ m⟩ ⟨pre ++ n⟩ = .ok t') :
    t.Reaches pre n d ∧ t.entry? (d ++ [n]) ≠ some .directory ∧
      t' = t.move (d ++ [m]) (d ++ [n]) := by
  obtain ⟨e, m', d', n', entry, hsource, htarget, hentry', hcheck, rfl⟩ := rename_ok h
  obtain ⟨rfl, hsource⟩ := hsource.reaches hpre hm
  obtain ⟨rfl, htarget⟩ := htarget.reaches hpre hn
  obtain rfl : e = d := Except.ok.inj (hsource.walk.symm.trans hd.walk)
  obtain rfl : d' = e := Except.ok.inj (htarget.walk.symm.trans hd.walk)
  obtain rfl : .file content = entry := Option.some.inj (hentry.symm.trans hentry')
  exact ⟨htarget, checkMove_file hcheck, if_neg (by simpa using hne)⟩

end UpdateAgent.Tree
