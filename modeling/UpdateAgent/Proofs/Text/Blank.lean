import Mathlib.Data.List.DropRight
import Mathlib.Data.List.TakeWhile
import UpdateAgent.Text.Blank

/-!
# White space around a text

What is cut off a text is the white space around it: a text is what is left of it between two blank
ones (`exists_trim`), and of a text that begins and ends with other characters nothing is cut off
(`trim_append`).
-/

namespace UpdateAgent.Text

variable {cs before after : List Char}

/-- Nothing but white space. -/
def Blank (cs : List Char) : Prop :=
  ∀ c ∈ cs, isBlank c

theorem Blank.append (hbefore : Blank before) (hafter : Blank after) : Blank (before ++ after) :=
  List.forall_mem_append.mpr ⟨hbefore, hafter⟩

theorem trim_eq_rdropWhile (cs : List Char) :
    trim cs = (cs.dropWhile isBlank).rdropWhile isBlank :=
  rfl

/-- A text is what is left of it between white space. -/
theorem exists_trim (cs : List Char) :
    ∃ before after, Blank before ∧ Blank after ∧ cs = before ++ (trim cs ++ after) := by
  refine ⟨cs.takeWhile isBlank, (cs.dropWhile isBlank).rtakeWhile isBlank,
    fun c hc => List.mem_takeWhile_imp hc, fun c hc => List.mem_rtakeWhile_imp hc, ?_⟩
  rw [trim_eq_rdropWhile, List.rdropWhile_append_rtakeWhile, List.takeWhile_append_dropWhile]

/-- Nothing is left of white space, and of nothing else. -/
theorem trim_eq_nil_iff : trim cs = [] ↔ Blank cs := by
  constructor
  · intro h
    obtain ⟨before, after, hbefore, hafter, hcs⟩ := exists_trim cs
    rw [hcs, h]
    exact hbefore.append hafter
  · intro h
    rw [trim_eq_rdropWhile, List.rdropWhile_eq_nil_iff]
    exact fun c hc => h c ((List.dropWhile_suffix isBlank).subset hc)

theorem trim_ne_nil_iff : trim cs ≠ [] ↔ ∃ c ∈ cs, isBlank c = false := by
  simp [trim_eq_nil_iff, Blank]

theorem dropWhile_append (hbefore : Blank before) (hhead : ∀ c ∈ cs.head?, isBlank c = false) :
    (before ++ cs).dropWhile isBlank = cs := by
  rw [List.dropWhile_append_of_pos fun c hc => hbefore c hc]
  rcases cs with _ | ⟨c, cs⟩
  · rfl
  · simp [hhead c rfl]

/-- White space around a text that begins and ends with other characters is cut off. -/
theorem trim_append (hbefore : Blank before) (hafter : Blank after)
    (hhead : ∀ c ∈ cs.head?, isBlank c = false) (hlast : ∀ c ∈ cs.getLast?, isBlank c = false) :
    trim (before ++ (cs ++ after)) = cs := by
  rcases hcs : cs with _ | ⟨c, rest⟩
  · exact trim_eq_nil_iff.mpr (hbefore.append hafter)
  rw [← hcs]
  have hfirst : ∀ c ∈ (cs ++ after).head?, isBlank c = false := by
    rw [hcs] at hhead ⊢
    exact hhead
  have hback : Blank after.reverse := fun c hc => hafter c (List.mem_reverse.mp hc)
  rw [← List.head?_reverse] at hlast
  rw [trim, dropWhile_append hbefore hfirst, List.reverse_append, dropWhile_append hback hlast,
    List.reverse_reverse]

end UpdateAgent.Text
