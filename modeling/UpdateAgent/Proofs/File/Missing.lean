import UpdateAgent.Proofs.File.Tree
import Mathlib.Data.List.Basic

/-!
# What is not found

A way is not found if it can be followed to a name that is missing (`walk_eq_notFound_iff`). So a
file is not found if its path can be given and something is missing on the way to it, and it is read
if the way leads to a directory that it is in (`read_eq_notFound_iff`, `read_eq_ok_iff`).
-/

namespace UpdateAgent.Tree

open UpdateAgent.Path

variable {t : Tree} {d : Place} {n : Name} {ns : List Name}

/-- The directory could have something of this name, and has nothing. -/
structure Absent (t : Tree) (d : Place) (n : Name) : Prop where
  ne_dot : n ≠ ['.']
  ne_dots : n ≠ ['.', '.']
  length : (Utf8.encode n).length ≤ nameLimit
  entry : t.entry? (d ++ [n]) = none

/-- The way can be followed to a name that is missing. -/
def Missing (t : Tree) (ns : List Name) : Prop :=
  ∃ before n after d, ns = before ++ n :: after ∧ t.walk before = .ok d ∧ t.Absent d n

theorem lookup_bind_eq_notFound_iff {α : Type} {f : Place → Except FileError α} :
    (lookup d n).bind f = .error .notFound ↔
      (Utf8.encode n).length ≤ nameLimit ∧ f (d ++ [n]) = .error .notFound := by
  by_cases hlength : (Utf8.encode n).length ≤ nameLimit
  · rw [lookup_eq_ok_iff.mpr ⟨hlength, rfl⟩]
    exact ⟨fun h => ⟨hlength, h⟩, fun h => h.2⟩
  · rw [lookup, if_pos (Nat.lt_of_not_le hlength)]
    exact iff_of_false (fun h => by cases h) fun h => hlength h.1

theorem enter_eq_notFound_iff : t.enter d n = .error .notFound ↔ t.Absent d n := by
  by_cases hdot : n = ['.']
  · rw [enter, if_pos hdot]
    exact iff_of_false (by simp) fun h => h.ne_dot hdot
  · by_cases hdots : n = ['.', '.']
    · rw [enter, if_neg hdot, if_pos hdots]
      exact iff_of_false (by simp) fun h => h.ne_dots hdots
    · rw [enter_name hdot hdots, lookup_bind_eq_notFound_iff]
      constructor
      · rintro ⟨hlength, h⟩
        refine ⟨hdot, hdots, hlength, ?_⟩
        rcases hentry : t.entry? (d ++ [n]) with _ | _ | content
        · rfl
        · rw [hentry] at h
          cases h
        · rw [hentry] at h
          cases h
      · intro h
        rw [h.entry]
        exact ⟨h.length, rfl⟩

theorem missing_concat : t.Missing (ns ++ [n]) ↔
    t.Missing ns ∨ ∃ d, t.walk ns = .ok d ∧ t.Absent d n := by
  constructor
  · rintro ⟨before, m, after, d, hsplit, hwalk, habsent⟩
    rcases List.eq_nil_or_concat' after with rfl | ⟨after, last, rfl⟩
    · obtain ⟨rfl, hn⟩ := List.append_inj' hsplit rfl
      obtain rfl := List.singleton_inj.mp hn
      exact .inr ⟨d, hwalk, habsent⟩
    · rw [← List.cons_append, ← List.append_assoc] at hsplit
      obtain ⟨rfl, -⟩ := List.append_inj' hsplit rfl
      exact .inl ⟨before, m, after, d, rfl, hwalk, habsent⟩
  · rintro (⟨before, m, after, d, rfl, hwalk, habsent⟩ | ⟨d, hwalk, habsent⟩)
    · exact ⟨before, m, after ++ [n], d, by simp, hwalk, habsent⟩
    · exact ⟨ns, n, [], d, rfl, hwalk, habsent⟩

/-- A way is not found if something is missing on it. -/
theorem walk_eq_notFound_iff : t.walk ns = .error .notFound ↔ t.Missing ns := by
  -- On the last name: it is missing, or one before it is.
  induction ns using List.reverseRecOn with
  | nil =>
    constructor
    · exact nofun
    · rintro ⟨before, m, after, d, hsplit, -⟩
      simp at hsplit
  | append_singleton ns n ih =>
    rw [walk_concat, missing_concat, ← ih]
    rcases hwalk : t.walk ns with error | d
    · simp [Except.bind]
    · simp [Except.bind, enter_eq_notFound_iff]

theorem contentAt_eq_notFound_iff {place : Place} :
    t.contentAt place = .error .notFound ↔ t.entry? place = none := by
  rw [contentAt]
  rcases t.entry? place with _ | _ | content
  · exact iff_of_true rfl rfl
  · exact iff_of_false (fun h => by cases h) (by simp)
  · exact iff_of_false (fun h => by cases h) (by simp)

theorem check_ne_notFound {p : Path} (h : p.chars ≠ []) : check p ≠ .error .notFound := by
  rw [check, if_neg (by simpa using h : ¬ p.chars.isEmpty = true)]
  split
  · exact nofun
  · split <;> exact nofun

section Child

variable {pre : List Char} (hpre : IsPrefix pre) (hn : IsName n)

include hpre hn

/-- A file is not found if its path can be given and something is missing on the way. -/
theorem read_eq_notFound_iff : t.read ⟨pre ++ n⟩ = .error .notFound ↔
    Tree.check ⟨pre ++ n⟩ = .ok () ∧ t.Missing (names pre ++ [n]) := by
  rw [read_child hpre hn, missing_concat, ← walk_eq_notFound_iff]
  rcases hcheck : Tree.check ⟨pre ++ n⟩ with error | _
  · have hne := check_ne_notFound (List.append_ne_nil_of_right_ne_nil pre hn.ne_nil)
    rw [hcheck] at hne
    simpa [Except.bind] using hne
  · rcases hwalk : t.walk (names pre) with error | d
    · simp [Except.bind]
    · have hcontent : (Tree.lookup d n).bind t.contentAt = .error .notFound ↔ t.Absent d n := by
        rw [lookup_bind_eq_notFound_iff, contentAt_eq_notFound_iff]
        exact ⟨fun h => ⟨hn.ne_dot, hn.ne_dots, h.1, h.2⟩, fun h => ⟨h.length, h.entry⟩⟩
      simpa [Except.bind, hwalk] using hcontent

/-- A file is read if its path can be given, the way leads to a directory, and the file is in it. -/
theorem read_eq_ok_iff {content : Bytes} : t.read ⟨pre ++ n⟩ = .ok content ↔
    ∃ d, t.Reaches pre n d ∧ t.entry? (d ++ [n]) = some (.file content) := by
  refine ⟨reaches_of_read hpre hn, ?_⟩
  rintro ⟨d, hreaches, hentry⟩
  rw [hreaches.read hpre hn, contentAt, hentry]

end Child

end UpdateAgent.Tree
