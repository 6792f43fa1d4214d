import UpdateAgent.Proofs.File.Tree
import Mathlib.Data.List.Basic

/-!
# Trees in which every entry lies in a directory

`Valid` is kept up by every operation on a tree, and a way through a valid tree ends in a directory.
A way that is not open needs more care: a directory that is made on it can show what was behind it,
unless there is nothing behind it to show (`Clear`, `read_makeDirectory`).
-/

namespace UpdateAgent.Tree

open UpdateAgent.Path

variable {t t' : Tree} {d place source target : Place} {n : Name} {entry : Entry}

/-- What there is lies in directories. -/
def Valid (t : Tree) : Prop :=
  ∀ place n, t.entry? (place ++ [n]) ≠ none → t.entry? place = some .directory

theorem valid_empty : Valid {} := by
  intro place n h
  rw [entry?_of_ne (by simp)] at h
  exact absurd rfl h

/-- Nothing lies below what is no directory. -/
theorem Valid.entry?_below (hvalid : t.Valid) (h : t.entry? place ≠ some .directory)
    {rest : Place} (hrest : rest ≠ []) : t.entry? (place ++ rest) = none := by
  induction rest using List.reverseRecOn with
  | nil => contradiction
  | append_singleton rest n ih =>
    by_contra hentry
    rw [← List.append_assoc] at hentry
    -- What it lies in would be a directory, and that is nothing by the induction.
    have hdirectory := hvalid _ n hentry
    by_cases hnil : rest = []
    · rw [hnil, List.append_nil] at hdirectory
      exact h hdirectory
    · rw [ih hnil] at hdirectory
      cases hdirectory

/-- A way leads to a directory. -/
theorem Valid.entry?_walk (hvalid : t.Valid) {ns : List Name} (h : t.walk ns = .ok d) :
    t.entry? d = some .directory := by
  induction ns using List.reverseRecOn generalizing d with
  | nil =>
    cases h
    exact entry?_nil
  | append_singleton ns n ih =>
    rw [walk_concat] at h
    rcases hwalk : t.walk ns with _ | x
    · simp [hwalk, Except.bind] at h
    · have hx := ih hwalk
      simp only [hwalk, Except.bind] at h
      rcases enter_ok_iff.mp h with ⟨-, rfl⟩ | ⟨-, rfl⟩ | ⟨-, -, -, hentry⟩
      · exact hx
      · rcases List.eq_nil_or_concat' x with rfl | ⟨y, m, rfl⟩
        · exact entry?_nil
        · rw [List.dropLast_concat]
          exact hvalid y m (by simp [hx])
      · exact hentry

/-- An entry may be put into a directory in place of one that is no directory. -/
theorem Valid.insert (hvalid : t.Valid) (hd : t.entry? d = some .directory)
    (h : t.entry? (d ++ [n]) ≠ some .directory) : (t.insert (d ++ [n]) entry).Valid := by
  intro place m hentry
  have hplace : place ≠ d ++ [n] := by
    rintro rfl
    have hbelow := hvalid.entry?_below h (List.cons_ne_nil m [])
    rw [entry?_insert_of_ne (by simp), hbelow] at hentry
    exact hentry rfl
  rw [entry?_insert_of_ne hplace]
  by_cases heq : place ++ [m] = d ++ [n]
  · obtain ⟨rfl, -⟩ := List.append_inj' heq rfl
    exact hd
  · rw [entry?_insert_of_ne heq] at hentry
    exact hvalid place m hentry

/-- Where a file was moved, no entry but its own and the one it replaced is another. -/
theorem Valid.entry?_move (hvalid : t.Valid) (hsource : t.entry? source ≠ some .directory)
    (htarget : t.entry? target ≠ some .directory) {other : Place} (hne : other ≠ source)
    (hne' : other ≠ target) : entry? (t.move source target) other = t.entry? other := by
  have hroot {place : Place} (h : t.entry? place ≠ some .directory) : place ≠ [] := by
    rintro rfl
    exact h entry?_nil
  have hempty {rest : Place} (hrest : rest ≠ []) : t.entry? (target ++ rest) = none :=
    hvalid.entry?_below htarget hrest
  by_cases hbelow : isBelow other target
  · obtain ⟨rest, rfl⟩ := isBelow_iff.mp hbelow
    have hrest : rest ≠ [] := by
      rintro rfl
      exact hne' (List.append_nil target)
    rw [entry?_move_below (hroot hsource) (hroot htarget) rest hempty, hempty hrest,
      hvalid.entry?_below hsource hrest]
  · by_cases hmoved : isBelow other source
    · obtain ⟨rest, rfl⟩ := isBelow_iff.mp hmoved
      have hrest : rest ≠ [] := by
        rintro rfl
        exact hne (List.append_nil source)
      rw [entry?_move_source hmoved (by simpa using hbelow) (by simp [hrest]),
        hvalid.entry?_below hsource hrest]
    · exact entry?_move_of_not_below (by simpa using hmoved) (by simpa using hbelow)

/-! ## Operations -/

/-- The directory that a path leads to. -/
theorem Leads.directory {p : Path} (h : t.Leads p d n) (hvalid : t.Valid) :
    t.entry? d = some .directory := by
  obtain ⟨before, -, hwalk, -⟩ := h.walk
  exact hvalid.entry?_walk hwalk

theorem valid_makeDirectory {p : Path} (hvalid : t.Valid) (h : t.makeDirectory p = .ok t') :
    t'.Valid := by
  obtain ⟨d, n, hleads, hentry, rfl⟩ := makeDirectory_ok h
  exact hvalid.insert (hleads.directory hvalid) (by simp [hentry])

theorem valid_create {p : Path} (hvalid : t.Valid) (h : t.create p = .ok t') : t'.Valid := by
  obtain ⟨d, n, hleads, hentry, rfl⟩ := create_ok h
  exact hvalid.insert (hleads.directory hvalid) hentry

theorem valid_write {p : Path} (hvalid : t.Valid) (new : Bytes) : (t.write p new).Valid := by
  rcases write_eq t p new with heq | ⟨d, n, content, hleads, hentry, heq⟩
  · rw [heq]
    exact hvalid
  · rw [heq]
    exact hvalid.insert (hleads.directory hvalid) (by simp [hentry])

theorem valid_remove {p : Path} (hvalid : t.Valid) (h : t.remove p = .ok t') : t'.Valid := by
  obtain ⟨d, n, -, hentry, rfl⟩ := remove_ok h
  intro place m hm
  by_cases heq : place ++ [m] = d ++ [n]
  · rw [heq, entry?_erase_self (by simp)] at hm
    exact absurd rfl hm
  · rw [entry?_erase_of_ne heq] at hm
    have hplace := hvalid place m hm
    rw [entry?_erase_of_ne]
    · exact hplace
    · rintro rfl
      exact hentry hplace

/-- What may move to another place finds nothing below that place. -/
theorem Valid.entry?_below_target (hvalid : t.Valid) (hne : source ≠ target)
    (h : t.checkMove source target entry = .ok ()) {rest : Place} (hrest : rest ≠ []) :
    t.entry? (target ++ rest) = none := by
  rcases (checkMove_ok hne h).2 with hentry | hoccupied
  · exact hvalid.entry?_below hentry hrest
  · rw [entry?_of_ne (List.append_ne_nil_of_right_ne_nil target hrest)]
    refine lookup_eq_none _ fun e he heq => ?_
    rw [isOccupied, List.any_eq_false] at hoccupied
    have hfree := hoccupied e he
    simp [heq, hrest] at hfree

/-- Moving an entry with all that lies below it keeps every entry in a directory. -/
theorem Valid.move (hvalid : t.Valid) (hsource : source ≠ []) (hne : source ≠ d ++ [n])
    (hd : t.entry? d = some .directory) (h : t.checkMove source (d ++ [n]) entry = .ok ()) :
    (t.move source (d ++ [n])).Valid := by
  have hempty {rest : Place} : rest ≠ [] → t.entry? (d ++ [n] ++ rest) = none :=
    hvalid.entry?_below_target hne h
  obtain ⟨hinto, -⟩ := checkMove_ok hne h
  intro place m hm
  by_cases hbelow : isBelow (place ++ [m]) (d ++ [n])
  · -- It was moved there, or is what was moved.
    obtain ⟨rest, hrest⟩ := isBelow_iff.mp hbelow
    rw [hrest, entry?_move_below hsource (by simp) rest hempty] at hm
    rcases List.eq_nil_or_concat' rest with rfl | ⟨rest, m', rfl⟩
    · rw [List.append_nil] at hrest
      obtain ⟨rfl, -⟩ := List.append_inj' hrest rfl
      rw [entry?_move_of_not_below]
      · exact hd
      · rw [Bool.eq_false_iff]
        intro hplace
        rw [isBelow_concat hplace n] at hinto
        cases hinto
      · rw [Bool.eq_false_iff]
        intro hplace
        obtain ⟨rest, hrest⟩ := isBelow_iff.mp hplace
        simpa using congrArg List.length hrest
    · rw [← List.append_assoc] at hrest hm
      obtain ⟨rfl, -⟩ := List.append_inj' hrest rfl
      rw [entry?_move_below hsource (by simp) rest hempty]
      exact hvalid _ _ hm
  · by_cases hmoved : isBelow (place ++ [m]) source
    · rw [entry?_move_source hmoved (by simpa using hbelow) (by simp)] at hm
      exact absurd rfl hm
    · -- It has nothing to do with the move, and neither has the directory it lies in.
      rw [entry?_move_of_not_below (by simpa using hmoved) (by simpa using hbelow)] at hm
      rw [entry?_move_of_not_below]
      · exact hvalid place m hm
      · rw [Bool.eq_false_iff]
        exact fun hplace => hmoved (isBelow_concat hplace m)
      · rw [Bool.eq_false_iff]
        exact fun hplace => hbelow (isBelow_concat hplace m)

theorem valid_rename {p q : Path} (hvalid : t.Valid) (h : t.rename p q = .ok t') : t'.Valid := by
  obtain ⟨d, m, d', n, entry, hsource, htarget, hentry, hcheck, rfl⟩ := rename_ok h
  by_cases heq : d ++ [m] = d' ++ [n]
  · rw [if_pos heq]
    exact hvalid
  · rw [if_neg heq]
    exact hvalid.move (by simp) heq (htarget.directory hvalid) hcheck

/-! ## New directories on a way -/

/-- A directory that is made on a way was missing there. -/
theorem walk_of_makeDirectory {p : Path} (h : t.makeDirectory p = .ok t') (rest : List Name) :
    t.walk (names p.chars ++ rest) = .error .notFound := by
  obtain ⟨d, n, hleads, hentry, -⟩ := makeDirectory_ok h
  obtain ⟨before, hnames, hwalk, hdot, hdots⟩ := hleads.walk
  have henter : t.enter d n = .error .notFound := by
    simp [enter_name hdot hdots, hleads.lookup, hentry, Except.bind]
  rw [hnames, List.append_assoc, walk_append, hwalk, Except.bind, List.singleton_append,
    List.foldlM_cons, henter]
  rfl

/-- Behind the first name on the way that is missing, no name leads back up or is too long. -/
def Clear (t : Tree) (ns : List Name) : Prop :=
  ∀ before after, ns = before ++ after → t.walk before = .error .notFound →
    ∀ n ∈ after, n ≠ ['.', '.'] ∧ (Utf8.encode n).length ≤ nameLimit

/-- Nothing is missing on a way that is open. -/
theorem clear_of_walk {ns : List Name} (h : t.walk ns = .ok d) (n : Name) :
    t.Clear (ns ++ [n]) := by
  intro before after hsplit hwalk m hm
  rcases List.eq_nil_or_concat' after with rfl | ⟨after, last, rfl⟩
  · cases hm
  · rw [← List.append_assoc] at hsplit
    obtain ⟨rfl, -⟩ := List.append_inj' hsplit rfl
    rw [walk_append, hwalk] at h
    cases h

/-- A way on which no name leads back up or is too long is clear in every tree. -/
theorem clear_of_forall {ns : List Name}
    (h : ∀ n ∈ ns, n ≠ ['.', '.'] ∧ (Utf8.encode n).length ≤ nameLimit) : t.Clear ns := by
  rintro before after rfl - n hn
  exact h n (List.mem_append_right before hn)

/-- A way that is open is clear. -/
theorem clear_of_open {ns : List Name} (h : t.walk ns = .ok d) : t.Clear ns := by
  rintro before after rfl hwalk
  rw [walk_append, hwalk] at h
  cases h

/-- A clear way may go on with names that neither lead back up nor are too long. -/
theorem Clear.append {ns ms : List Name} (h : t.Clear ns)
    (hms : ∀ n ∈ ms, n ≠ ['.', '.'] ∧ (Utf8.encode n).length ≤ nameLimit) :
    t.Clear (ns ++ ms) := by
  intro before after hsplit hwalk n hn
  rcases List.append_eq_append_iff.mp hsplit with ⟨l, rfl, rfl⟩ | ⟨l, rfl, rfl⟩
  · exact hms n (List.mem_append_right l hn)
  · rcases List.mem_append.mp hn with hn | hn
    · exact h before l rfl hwalk n hn
    · exact hms n hn

/-- In a directory in which there is nothing, a way ends or goes no further. -/
theorem foldlM_enter_of_empty (hempty : ∀ n, t.entry? (d ++ [n]) = none) {ns : List Name}
    (hns : ∀ n ∈ ns, n ≠ ['.', '.'] ∧ (Utf8.encode n).length ≤ nameLimit) :
    ns.foldlM t.enter d = .ok d ∨ ns.foldlM t.enter d = .error .notFound := by
  induction ns with
  | nil => exact .inl rfl
  | cons n ns ih =>
    obtain ⟨hdots, hlength⟩ := hns n List.mem_cons_self
    rw [List.foldlM_cons]
    by_cases hdot : n = ['.']
    · rw [enter, if_pos hdot]
      exact ih fun m hm => hns m (List.mem_cons_of_mem _ hm)
    · have henter : t.enter d n = .error .notFound := by
        simp [enter_name hdot hdots, lookup_eq_ok_iff.mpr ⟨hlength, rfl⟩, hempty, Except.bind]
      rw [henter]
      exact .inr rfl

/-- The new directory lies on the way, and there is nothing in it. -/
theorem walk_makeDirectory {p : Path} (hvalid : t.Valid) (h : t.makeDirectory p = .ok t') :
    ∃ x, t'.walk (names p.chars) = .ok x ∧ ∀ n, t'.entry? (x ++ [n]) = none := by
  obtain ⟨d, n, hleads, hentry, rfl⟩ := makeDirectory_ok h
  obtain ⟨before, hnames, hwalk, hdot, hdots⟩ := hleads.walk
  have hkeeps : t.Keeps (t.insert (d ++ [n]) .directory) := keeps_insert _ (by simp [hentry])
  refine ⟨d ++ [n], ?_, fun m => ?_⟩
  · rw [hnames, walk_concat, walk_ok_of_keeps hkeeps hwalk]
    simp [Except.bind, enter_name hdot hdots, hleads.lookup, entry?_insert_self]
  · rw [entry?_insert_of_ne (by simp)]
    exact hvalid.entry?_below (by simp [hentry]) (by simp)

/-- What was clear behind a missing name is clear behind the next one. -/
theorem clear_makeDirectory {p : Path} {rest : List Name} (hvalid : t.Valid)
    (hclear : t.Clear (names p.chars ++ rest)) (h : t.makeDirectory p = .ok t') :
    t'.Clear (names p.chars ++ rest) := by
  intro before after hsplit hwalk n hn
  have hrest := hclear (names p.chars) rest rfl (by simpa using walk_of_makeDirectory h [])
  rcases List.append_eq_append_iff.mp hsplit with ⟨l, rfl, rfl⟩ | ⟨l, hp, rfl⟩
  · exact hrest n (List.mem_append_right l hn)
  · obtain ⟨x, hx, -⟩ := walk_makeDirectory hvalid h
    -- The next missing name lies behind the new directory, to which the way is open.
    rw [hp, walk_append, hwalk] at hx
    cases hx

/-- What was missing behind a directory that was not there is missing behind the new one. -/
theorem read_makeDirectory {p : Path} {pre : List Char} (hpre : IsPrefix pre) (hn : IsPiece n)
    {rest : List Name} (hrest : names pre = names p.chars ++ rest) (hvalid : t.Valid)
    (hclear : t.read ⟨pre ++ n⟩ = .error .notFound → t.Clear (names pre ++ [n]))
    (h : t.makeDirectory p = .ok t') : t'.read ⟨pre ++ n⟩ = t.read ⟨pre ++ n⟩ := by
  have hway : t.walk (names pre) = .error .notFound := by
    rw [hrest]
    exact walk_of_makeDirectory h rest
  rcases hn with hn | rfl
  · have hread := read_child (t := t) hpre hn
    rw [hway] at hread
    rw [hread] at hclear
    rw [hread, read_child hpre hn]
    rcases hcheck : check ⟨pre ++ n⟩ with _ | _
    · rfl
    · rw [hcheck] at hclear
      obtain ⟨x, hx, hempty⟩ := walk_makeDirectory hvalid h
      have hbehind := hclear rfl
      rw [hrest, List.append_assoc] at hbehind
      have hafter := hbehind (names p.chars) (rest ++ [n]) rfl
        (by simpa using walk_of_makeDirectory h [])
      obtain ⟨-, hlength⟩ := hafter n (List.mem_append_right rest (List.mem_singleton.mpr rfl))
      rw [hrest, walk_append, hx]
      rcases foldlM_enter_of_empty hempty fun m hm => hafter m (List.mem_append_left _ hm) with
        hwalk | hwalk
      · simp [Except.bind, hwalk, lookup_eq_ok_iff.mpr ⟨hlength, rfl⟩, contentAt, hempty]
      · simp [Except.bind, hwalk]
  · have hread := read_up (t := t) hpre
    rw [hway] at hread
    rw [hread] at hclear
    rw [hread, read_up hpre]
    rcases hcheck : check ⟨pre ++ ['.', '.']⟩ with _ | _
    · rfl
    · rw [hcheck] at hclear
      -- The way was not clear: it leads back up.
      have hafter := hclear rfl (names pre) [['.', '.']] rfl hway
      exact absurd rfl (hafter ['.', '.'] (List.mem_singleton.mpr rfl)).1

end UpdateAgent.Tree
