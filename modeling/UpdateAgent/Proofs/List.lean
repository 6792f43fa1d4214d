import Mathlib.Data.List.Forall2

/-!
# Lists

Where a place lies in two lists that were put together, and what a partial map of a list comes to.
-/

namespace UpdateAgent

/-- A place in the second of two lists, or one in the first. -/
theorem append_eq_append_cons {γ : Type} {first rest before after : List γ} {e : γ}
    (h : first ++ rest = before ++ e :: after) :
    (∃ l, before = first ++ l ∧ rest = l ++ e :: after) ∨
      ∃ l, first = before ++ e :: l ∧ after = l ++ rest := by
  rcases List.append_eq_append_iff.mp h with ⟨l, hbefore, hrest⟩ | ⟨l, hfirst, hafter⟩
  · exact .inl ⟨l, hbefore, hrest⟩
  · cases l with
    | nil => exact .inl ⟨[], by simpa using hfirst.symm, hafter.symm⟩
    | cons e' l =>
      obtain ⟨rfl, rfl⟩ := List.cons_eq_cons.mp hafter
      exact .inr ⟨l, hfirst, rfl⟩

/-- A list is mapped as a whole if each of its items is. -/
theorem mapM_eq_some_iff {α β : Type} {f : α → Option β} {l : List α} {l' : List β} :
    l.mapM f = some l' ↔ List.Forall₂ (fun a b => f a = some b) l l' := by
  induction l generalizing l' with
  | nil =>
    rw [List.mapM_nil, List.forall₂_nil_left_iff]
    exact ⟨fun h => (Option.some.inj h).symm, fun h => congrArg some h.symm⟩
  | cons a l ih =>
    rw [List.mapM_cons, List.forall₂_cons_left_iff]
    simp only [Option.bind_eq_bind, Option.bind_eq_some_iff, Option.pure_def, Option.some.injEq, ih]
    exact ⟨fun ⟨b, hb, rest, hrest, h⟩ => ⟨b, rest, hb, hrest, h.symm⟩,
      fun ⟨b, rest, hb, hrest, h⟩ => ⟨b, hb, rest, hrest, h.symm⟩⟩

end UpdateAgent
