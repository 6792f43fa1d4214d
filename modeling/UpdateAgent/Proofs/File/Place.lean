import UpdateAgent.Proofs.File.Writing

/-!
# Where entries come to be

Whatever directories there are, a way that can be followed leads to one place (`walk_eq_resolve`),
so a file that a path finds is at a place that can be told from the path alone. What is read there
is told by the way to a directory and by what there is below that one (`read_congr`). Making
directories on a way adds directories on it and changes nothing else (`steps_spared`).
-/

namespace UpdateAgent

open UpdateAgent.Path Program

namespace Tree

variable {t t' t'' : Tree} {d place : Place} {n : Name} {ns ms : List Name}

/-- Where names lead if every one of them can be followed. -/
def resolve (ns : List Name) : Place :=
  ns.foldl (fun d n =>
    if n = ['.'] then d else if n = ['.', '.'] then d.dropLast else d ++ [n]) []

theorem resolve_concat' (ns : List Name) (hdot : n ≠ ['.']) (hdots : n ≠ ['.', '.']) :
    resolve (ns ++ [n]) = resolve ns ++ [n] := by
  rw [resolve, List.foldl_append, ← resolve, List.foldl_cons, List.foldl_nil, if_neg hdot,
    if_neg hdots]

theorem resolve_concat (ns : List Name) (hn : IsName n) :
    resolve (ns ++ [n]) = resolve ns ++ [n] :=
  resolve_concat' ns hn.ne_dot hn.ne_dots

/-- Where names lead that do not lead back up. -/
theorem resolve_append (ns : List Name) (hms : ∀ n ∈ ms, n ≠ ['.', '.']) :
    resolve (ns ++ ms) = resolve ns ++ ms.filter (· ≠ ['.']) := by
  induction ms using List.reverseRecOn with
  | nil => simp
  | append_singleton ms n ih =>
    have hn := hms n (by simp)
    have ih := ih fun m hm => hms m (List.mem_append_left _ hm)
    rw [← List.append_assoc, resolve, List.foldl_append, ← resolve, ih, List.foldl_cons,
      List.foldl_nil, List.filter_append]
    by_cases hdot : n = ['.']
    · simp [hdot]
    · simp [hdot, hn]

theorem walk_eq_resolve (h : t.walk ns = .ok d) : d = resolve ns := by
  -- On the last name, which goes on from where the names before it lead.
  induction ns using List.reverseRecOn generalizing d with
  | nil =>
    cases h
    rfl
  | append_singleton ns n ih =>
    rw [walk_concat] at h
    rcases hwalk : t.walk ns with _ | x
    · rw [hwalk] at h
      cases h
    · rw [hwalk] at h
      rw [resolve, List.foldl_append, ← resolve, ← ih hwalk, List.foldl_cons, List.foldl_nil]
      rcases enter_ok_iff.mp h with ⟨rfl, rfl⟩ | ⟨rfl, rfl⟩ | ⟨hdot, hdots, hlookup, -⟩
      · rfl
      · rfl
      · obtain ⟨-, rfl⟩ := lookup_eq_ok_iff.mp hlookup
        rw [if_neg hdot, if_neg hdots]

/-- What leads to a name in a directory leads there. -/
theorem Leads.resolve {p : Path} (h : t.Leads p d n) : Tree.resolve (names p.chars) = d ++ [n] := by
  obtain ⟨before, hnames, hwalk, hdot, hdots⟩ := h.walk
  rw [hnames, resolve_concat' before hdot hdots, ← walk_eq_resolve hwalk]

/-- The place that a path to a name tells. -/
theorem resolve_child {pre : List Char} (hpre : IsPrefix pre) (hn : IsName n) :
    resolve (names (pre ++ n)) = resolve (names pre) ++ [n] := by
  rw [names_prefix_append hpre, names_name hn, resolve_concat _ hn]

/-- There is a file at a place. -/
def HasFile (t : Tree) (place : Place) : Prop :=
  ∃ content, t.entry? place = some (.file content)

/-- What is read from a file is at the place that its path tells. -/
theorem hasFile_of_read {pre : List Char} (hpre : IsPrefix pre) (hn : IsName n) {content : Bytes}
    (h : t.read ⟨pre ++ n⟩ = .ok content) : t.HasFile (resolve (names pre) ++ [n]) := by
  obtain ⟨d, hreaches, hentry⟩ := reaches_of_read hpre hn h
  rw [← walk_eq_resolve hreaches.walk]
  exact ⟨content, hentry⟩

/-! ## Below a directory -/

/-- Below a directory, two trees are the same. -/
def SameBelow (t t' : Tree) (d : Place) : Prop :=
  ∀ rest, rest ≠ [] → t'.entry? (d ++ rest) = t.entry? (d ++ rest)

theorem SameBelow.concat (h : SameBelow t t' d) (n : Name) : SameBelow t t' (d ++ [n]) := by
  intro rest _
  rw [List.append_assoc]
  exact h ([n] ++ rest) (by simp)

theorem SameBelow.enter (h : SameBelow t t' d) (hdots : n ≠ ['.', '.']) :
    t'.enter d n = t.enter d n := by
  by_cases hdot : n = ['.']
  · rw [Tree.enter, Tree.enter, if_pos hdot, if_pos hdot]
  · rw [enter_name hdot hdots, enter_name hdot hdots]
    rcases hlookup : lookup d n with _ | x
    · rfl
    · obtain ⟨-, rfl⟩ := lookup_eq_ok_iff.mp hlookup
      simp only [Except.bind, h [n] (List.cons_ne_nil n [])]

theorem SameBelow.foldlM (h : SameBelow t t' d) (hms : ∀ n ∈ ms, n ≠ ['.', '.']) :
    ms.foldlM t'.enter d = ms.foldlM t.enter d := by
  induction ms generalizing d with
  | nil => rfl
  | cons n ms ih =>
    have hdots := hms n List.mem_cons_self
    have hms := fun m hm => hms m (List.mem_cons_of_mem n hm)
    rw [List.foldlM_cons, List.foldlM_cons, h.enter hdots]
    rcases henter : t.enter d n with _ | x
    · rfl
    · refine ih ?_ hms
      rcases enter_ok_iff.mp henter with ⟨-, rfl⟩ | ⟨hup, -⟩ | ⟨-, -, hlookup, -⟩
      · exact h
      · exact absurd hup hdots
      · obtain ⟨-, rfl⟩ := lookup_eq_ok_iff.mp hlookup
        exact h.concat n

/-- What a read comes to is told by the way to a directory and by what there is below it, if the
path does not lead back up behind the directory. -/
theorem read_congr {pre : List Char} (hpre : IsPrefix pre) (hn : IsPiece n)
    (hnames : names pre = ns ++ ms) (hms : ∀ n ∈ ms, n ≠ ['.', '.'])
    (hwalk : t'.walk ns = t.walk ns) (hsame : SameBelow t t' (resolve ns)) :
    t'.read ⟨pre ++ n⟩ = t.read ⟨pre ++ n⟩ := by
  have hway : t'.walk (names pre) = t.walk (names pre) := by
    rw [hnames, walk_append, walk_append, hwalk]
    rcases hd : t.walk ns with _ | d
    · rfl
    · obtain rfl := walk_eq_resolve hd
      exact hsame.foldlM hms
  rcases hn with hn | rfl
  · rw [read_child hpre hn, read_child hpre hn, hway]
    rcases Tree.check ⟨pre ++ n⟩ with _ | _
    · rfl
    · rcases hd : t.walk (names pre) with _ | d
      · rfl
      · rcases hlookup : Tree.lookup d n with _ | x
        · simp [Except.bind, hlookup]
        · obtain ⟨-, rfl⟩ := lookup_eq_ok_iff.mp hlookup
          obtain rfl := walk_eq_resolve hd
          have hentry := hsame (ms.filter (· ≠ ['.']) ++ [n]) (by simp)
          rw [← List.append_assoc, ← resolve_append ns hms, ← hnames] at hentry
          simp [Except.bind, hlookup, contentAt, hentry]
  · rw [read_up hpre, read_up hpre, hway]

/-- A file in a directory is read as before if the way to the directory above that one is still
open, and in the directory everything is the same. -/
theorem read_of_same {pre : List Char} {m : Name} (hpre : IsPrefix pre) (hn : IsPiece n)
    (hm : IsName m) (hnames : names pre = ns ++ [m]) (hwalk : t.walk ns = .ok d)
    (hkeeps : t.Keeps t') (hsame : ∀ rest, t'.entry? (d ++ m :: rest) = t.entry? (d ++ m :: rest)) :
    t'.read ⟨pre ++ n⟩ = t.read ⟨pre ++ n⟩ := by
  obtain rfl := walk_eq_resolve hwalk
  have henter : t'.enter (resolve ns) m = t.enter (resolve ns) m := by
    rw [enter_name hm.ne_dot hm.ne_dots, enter_name hm.ne_dot hm.ne_dots]
    rcases hlookup : lookup (resolve ns) m with _ | x
    · rfl
    · obtain ⟨-, rfl⟩ := lookup_eq_ok_iff.mp hlookup
      simp only [Except.bind, hsame []]
  have hnone : ∀ k ∈ ([] : List Name), k ≠ ['.', '.'] := nofun
  refine read_congr hpre hn (hnames.trans (List.append_nil _).symm) hnone ?_ ?_
  · rw [walk_concat, walk_concat, hwalk, walk_ok_of_keeps hkeeps hwalk]
    exact henter
  · intro rest _
    rw [resolve_concat ns hm, List.append_assoc]
    exact hsame rest

/-! ## Directories on a way -/

/-- The place of a directory on the way that these names lead. -/
def OnTheWay (ns : List Name) (place : Place) : Prop :=
  ∃ before after, ns = before ++ after ∧ after ≠ [] ∧ place = resolve before

/-- What there is at a place is what there was, or a directory on the way where nothing was. -/
def Spared (ns : List Name) (t t' : Tree) (place : Place) : Prop :=
  t'.entry? place = t.entry? place ∨
    (t.entry? place = none ∧ t'.entry? place = some .directory ∧ OnTheWay ns place)

theorem Spared.trans (h : Spared ns t t' place) (h' : Spared ns t' t'' place) :
    Spared ns t t'' place := by
  rcases h' with h' | ⟨hnone, hdirectory, hway⟩
  · rw [Spared, h']
    exact h
  · rcases h with h | ⟨-, hdirectory', -⟩
    · exact .inr ⟨h ▸ hnone, hdirectory, hway⟩
    · rw [hnone] at hdirectory'
      cases hdirectory'

/-- Whatever was there is still there. -/
theorem Spared.keeps (h : Spared ns t t' place) {entry : Entry}
    (hentry : t.entry? place = some entry) : t'.entry? place = some entry := by
  rcases h with h | ⟨hnone, -⟩
  · rw [h, hentry]
  · rw [hnone] at hentry
    cases hentry

theorem keeps_of_spared (h : ∀ place, Spared ns t t' place) : t.Keeps t' :=
  fun place hplace => (h place).keeps hplace

theorem spared_makeDirectory {p : Path} {rest : List Name} (hrest : rest ≠ [])
    (h : t.makeDirectory p = .ok t') (place : Place) :
    Spared (names p.chars ++ rest) t t' place := by
  obtain ⟨d, n, hleads, hentry, rfl⟩ := makeDirectory_ok h
  by_cases hplace : place = d ++ [n]
  · subst hplace
    exact .inr ⟨hentry, entry?_insert_self (by simp), _, rest, rfl, hrest, hleads.resolve.symm⟩
  · exact .inl (entry?_insert_of_ne hplace)

end Tree

namespace Disk

variable {t t' : Tree} {trace : List (Exchange Disk)}

/-- Making directories on the way to a file adds directories on it, and that is all. -/
theorem steps_spared {ns : List Name} (hcalls : ∀ e ∈ trace, OnWay ns e.call)
    (hsteps : Steps t trace t') (n : Name) (place : Place) :
    Tree.Spared (ns ++ [n]) t t' place := by
  induction hsteps with
  | nil t => exact .inl rfl
  | @cons t t₁ t' e trace this _ ih =>
    refine Tree.Spared.trans ?_ (ih fun e he => hcalls e (List.mem_cons_of_mem _ he))
    have hcall := hcalls e List.mem_cons_self
    obtain ⟨call, reply⟩ := e
    match call, reply, hcall, this with
    | .isDirectory path, reply, _, this => exact .inl (by rw [step_isDirectory this])
    | .makeDirectory path, reply, ⟨rest, hrest⟩, this =>
      rcases step_makeDirectory this with ⟨_, -, rfl⟩ | ⟨-, hmade⟩
      · exact .inl rfl
      · rw [hrest, List.append_assoc]
        exact Tree.spared_makeDirectory (by simp) hmade place

/-! ## Places of a replacement -/

section Places

variable {pre : List Char} {m n : Name} {content : Bytes} (hpre : IsPrefix pre) (hm : IsName m)

include hpre hm

/-- Until the staged file is moved, nothing changes but where it is. -/
theorem Replacing.entry?_of_not_moved (h : Replacing t pre m n content false t') {place : Place}
    (hplace : place ≠ Tree.resolve (names (pre ++ m))) : t'.entry? place = t.entry? place := by
  cases h with
  | untouched => rfl
  | beside reaches _ same =>
    rw [Tree.resolve_child hpre hm, ← Tree.walk_eq_resolve reaches.walk] at hplace
    exact same place hplace

/-- Once it is moved, the file has the new content, and nothing is where it was. -/
theorem Replacing.entries_of_moved (hn : IsName n) (h : Replacing t pre m n content true t') :
    t'.entry? (Tree.resolve (names (pre ++ m))) = none ∧
      t'.entry? (Tree.resolve (names (pre ++ n))) = some (.file content) ∧
      ∀ place, place ≠ Tree.resolve (names (pre ++ m)) →
        place ≠ Tree.resolve (names (pre ++ n)) → t'.entry? place = t.entry? place := by
  rw [Tree.resolve_child hpre hm, Tree.resolve_child hpre hn]
  cases h with
  | moved reaches target free file gone there same =>
    rw [← Tree.walk_eq_resolve reaches.walk]
    exact ⟨gone, there, same⟩

end Places

/-! ## The end of a replacement -/

variable {path : Path} {suffix : List Char} {content : Bytes} {error : FileError}

/-- A staged file that could not be moved, or could not be filled, is removed in the end. -/
theorem withdraw_ends {staged : Path} {result : Except FileError Unit}
    (h : Runs (do discard (remove staged); return (.error error : Except FileError Unit))
      trace result) (hsteps : Steps t trace t')
    (hremoved : ∀ p r, ⟨.remove p, r⟩ ∈ trace → r = .ok ()) :
    ∃ t₁ : Tree, t₁.remove staged = .ok t' := by
  obtain ⟨r, rest, hrest, rfl⟩ := runs_request_discard_bind.mp h
  obtain ⟨rfl, -⟩ := runs_pure.mp hrest
  obtain ⟨t₁, hstep, hlast⟩ := steps_cons hsteps
  obtain rfl := steps_nil hlast
  obtain rfl := hremoved _ _ (List.mem_singleton.mpr rfl)
  rcases step_remove hstep with ⟨_, heq, -⟩ | ⟨-, hdone⟩
  · cases heq
  · exact ⟨t, hdone⟩

/-- A replacement that failed has changed nothing, or ended with the removal of the staged file. -/
theorem replace_ends (h : Runs (replace path suffix content) trace (.error error))
    (hsteps : Steps t trace t') (hremoved : ∀ p r, ⟨.remove p, r⟩ ∈ trace → r = .ok ()) :
    t' = t ∨ ∃ t₁ : Tree, t₁.remove (path.staging suffix) = .ok t' := by
  obtain ⟨created, rest, hrest, rfl⟩ := runs_request_bind.mp h
  obtain ⟨t₁, hcreate, hsteps₁⟩ := steps_cons hsteps
  cases created with
  | error e =>
    obtain ⟨rfl, -⟩ := runs_pure.mp hrest
    rcases step_create hcreate with ⟨_, -, rfl⟩ | ⟨heq, -⟩
    · exact .inl (steps_nil hsteps₁)
    · cases heq
  | ok =>
    right
    obtain ⟨filling, filled, last, hfill, hlast, rfl⟩ := runs_bind.mp hrest
    obtain ⟨t₂, -, hsteps₂⟩ := steps_append hsteps₁
    have hremoved : ∀ p r, ⟨.remove p, r⟩ ∈ last → r = .ok () := fun p r he =>
      hremoved p r (List.mem_cons_of_mem _ (List.mem_append_right _ he))
    cases filled with
    | error e => exact withdraw_ends hlast hsteps₂ hremoved
    | ok =>
      obtain ⟨moved, after, hafter, rfl⟩ := runs_request_bind.mp hlast
      obtain ⟨t₃, -, hsteps₃⟩ := steps_cons hsteps₂
      cases moved with
      | error e =>
        exact withdraw_ends hafter hsteps₃ fun p r he => hremoved p r (List.mem_cons_of_mem _ he)
      | ok =>
        -- Behind a file that was moved there is no failure.
        dsimp only at hafter
        split at hafter
        · obtain ⟨_, _, hpure, rfl⟩ := runs_request_discard_bind.mp hafter
          cases (runs_pure.mp hpure).2
        · cases (runs_pure.mp hafter).2

end Disk

end UpdateAgent
