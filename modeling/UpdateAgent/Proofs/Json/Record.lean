import UpdateAgent.Proofs.List
import UpdateAgent.Proofs.Json.Shape
import UpdateAgent.Proofs.Json.Spelling

/-!
# Records in documents

The members of an object are told apart by what their keys spell. A field of a record is the one
member with its name (`Only`), and a record can be written as the list of its fields
(`fields?_eq_some_iff`).
-/

namespace UpdateAgent.Json

/-- The pieces and the value of a member, and its key and value. -/
def Names (written : List Piece × Raw) (m : String × Raw) : Prop :=
  Spells written.1 m.1.toList ∧ written.2 = m.2

/-- A document that is one object, with these members in this order. -/
def IsObject (bytes : Bytes) (members : List (String × Raw)) : Prop :=
  ∃ written, Document bytes (.object written) ∧ List.Forall₂ Names written members

/-- One member has the name and no other one has, and this is its value. -/
def Only (members : List (String × Raw)) (name : String) (value : Raw) : Prop :=
  members.filter (·.1 = name) = [(name, value)]

/-- The value is a string and stands for a text. -/
def IsText (value : Raw) (s : String) : Prop :=
  ∃ ps, value = .text ps ∧ Spells ps s.toList

/-- One member has the name and no other one has, and its value stands for this text. -/
def OnlyText (members : List (String × Raw)) (name : String) (s : String) : Prop :=
  ∃ value, Only members name value ∧ IsText value s

/-! ## Fields -/

namespace Raw

variable {written : List (List Piece × Raw)} {members : List (String × Raw)} {r value : Raw}

theorem text?_eq_some_iff {s : String} : r.text? = some s ↔ IsText r s := by
  constructor
  · intro h
    cases r with
    | text ps => exact ⟨ps, rfl, Text.text?_eq_some_iff.mp h⟩
    | _ => cases h
  · rintro ⟨ps, rfl, hspells⟩
    exact Text.text?_eq_some_iff.mpr hspells

/-- The keys of members are decoded to what they spell. -/
theorem keyed?_eq_some_iff :
    keyed? written = some members ↔ List.Forall₂ Names written members := by
  have hnames (w : List Piece × Raw) (m : String × Raw) :
      (Text.text? w.1).map (·, w.2) = some m ↔ Names w m := by
    rw [Option.map_eq_some_iff, Names, ← Text.text?_eq_some_iff]
    constructor
    · rintro ⟨key, hkey, rfl⟩
      exact ⟨hkey, rfl⟩
    · rintro ⟨hkey, hvalue⟩
      exact ⟨m.1, hkey, by rw [hvalue]⟩
  rw [keyed?, mapM_eq_some_iff]
  simp only [hnames]

/-- A field is the one member with its name. -/
theorem only?_eq_some_iff {name : String} :
    only? ((members.filter (·.1 = name)).map (·.2)) = some value ↔ Only members name value := by
  rw [Only]
  have hname : ∀ m ∈ members.filter (·.1 = name), m.1 = name := fun m hm =>
    of_decide_eq_true (List.mem_filter.mp hm).2
  generalize members.filter (·.1 = name) = found at hname ⊢
  rcases found with _ | ⟨m, _ | ⟨m', others⟩⟩
  · simp [only?]
  · have hm := hname m List.mem_cons_self
    simp [only?, Prod.ext_iff, hm]
  · simp [only?]

/-- The fields of an object are the one members with their names. -/
theorem fields?_object {names : List String} {values : List Raw}
    (hnames : List.Forall₂ Names written members) :
    fields? names (.object written) = some values ↔ List.Forall₂ (Only members) names values := by
  rw [fields?, keyed?_eq_some_iff.mpr hnames, Option.bind_eq_bind, Option.bind_some,
    mapM_eq_some_iff]
  simp only [only?_eq_some_iff]

/-- A record is an object with its fields, or the list of them. -/
theorem fields?_eq_some_iff {names : List String} {values : List Raw} :
    r.fields? names = some values ↔
      (r = .list values ∧ values.length = names.length) ∨
        ∃ written members, r = .object written ∧ List.Forall₂ Names written members ∧
          List.Forall₂ (Only members) names values := by
  constructor
  · intro h
    cases r with
    | list items =>
      rw [fields?] at h
      split at h
      · rename_i hlength
        cases h
        exact .inl ⟨rfl, hlength⟩
      · cases h
    | object written =>
      obtain ⟨members, hkeyed, -⟩ := Option.bind_eq_some_iff.mp h
      have hnames := keyed?_eq_some_iff.mp hkeyed
      exact .inr ⟨written, members, rfl, hnames, (fields?_object hnames).mp h⟩
    | _ => cases h
  · rintro (⟨rfl, hlength⟩ | ⟨written, members, rfl, hnames, honly⟩)
    · exact if_pos hlength
    · exact (fields?_object hnames).mpr honly

/-- The one field of a record is the member with its name, or the one item of a list. -/
theorem only?_fields?_eq_some_iff {name : String} :
    (r.fields? [name]).bind only? = some value ↔
      r = .list [value] ∨ ∃ written members, r = .object written ∧
        List.Forall₂ Names written members ∧ Only members name value := by
  have hone {fields : List Raw} : only? fields = some value ↔ fields = [value] := by
    rcases fields with _ | ⟨a, _ | ⟨a', others⟩⟩ <;> simp [only?]
  simp only [Option.bind_eq_some_iff, hone, exists_eq_right, fields?_eq_some_iff,
    List.forall₂_cons, List.Forall₂.nil, and_true]
  simp

/-- The fields of an object that are strings stand for these texts. -/
theorem texts_object {names texts : List String} (hnames : List.Forall₂ Names written members) :
    (∃ values, fields? names (.object written) = some values ∧ List.Forall₂ IsText values texts) ↔
      List.Forall₂ (OnlyText members) names texts := by
  simp only [fields?_object hnames]
  constructor
  · rintro ⟨values, honly, htexts⟩
    induction honly generalizing texts with
    | nil =>
      cases htexts
      exact .nil
    | cons this _ ih =>
      cases htexts with
      | cons htext htexts => exact .cons ⟨_, this, htext⟩ (ih htexts)
  · intro h
    induction h with
    | nil => exact ⟨[], .nil, .nil⟩
    | cons this _ ih =>
      obtain ⟨value, honly, htext⟩ := this
      obtain ⟨values, honly', htexts⟩ := ih
      exact ⟨value :: values, .cons honly honly', .cons htext htexts⟩

end Raw

end UpdateAgent.Json
