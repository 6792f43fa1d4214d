import UpdateAgent.Proofs.Json.Record
import UpdateAgent.Proofs.Json.Value

/-!
# The members of a document

A document has one list of members and a member one key and one text, so what a document says is
told by its bytes (`IsObject.unique`, `IsText.unique`). An object that was written is read with its
members in the order of their keys, all of them if no key occurs twice (`ofRaw?_object`,
`ordered_perm`).
-/

namespace UpdateAgent.Json

variable {bytes : Bytes} {value : Raw} {s s' : String}

theorem IsText.unique (h : IsText value s) (h' : IsText value s') : s = s' :=
  Option.some.inj ((Raw.text?_eq_some_iff.mpr h).symm.trans (Raw.text?_eq_some_iff.mpr h'))

/-- Bytes are one document at most. -/
theorem Document.unique {r r' : Raw} (h : Document bytes r) (h' : Document bytes r') : r = r' :=
  Option.some.inj ((Raw.read?_eq_some_iff.mpr h).symm.trans (Raw.read?_eq_some_iff.mpr h'))

theorem names_unique {written : List (List Piece × Raw)} {members members' : List (String × Raw)}
    (h : List.Forall₂ Names written members) (h' : List.Forall₂ Names written members') :
    members = members' :=
  Option.some.inj ((Raw.keyed?_eq_some_iff.mpr h).symm.trans (Raw.keyed?_eq_some_iff.mpr h'))

theorem IsObject.unique {members members' : List (String × Raw)} (h : IsObject bytes members)
    (h' : IsObject bytes members') : members = members' := by
  obtain ⟨written, hdocument, hnames⟩ := h
  obtain ⟨written', hdocument', hnames'⟩ := h'
  cases hdocument.unique hdocument'
  exact names_unique hnames hnames'

/-- An object that was written is a document with the members that were written. -/
theorem isObject_of_read? {members : List (String × Raw)}
    (h : Raw.read? bytes = some (.object (members.map Raw.written))) : IsObject bytes members :=
  ⟨_, Raw.read?_eq_some_iff.mp h, Raw.keyed?_eq_some_iff.mp (Raw.keyed?_written members)⟩

namespace Value

variable {key : String} {v : Value} {members : List (String × Value)}

/-- A member with a key of its own is put between the others. -/
theorem insert_perm (h : key ∉ members.map (·.1)) :
    (insert key v members).Perm ((key, v) :: members) := by
  induction members with
  | nil => exact .refl _
  | cons m members ih =>
    obtain ⟨k, w⟩ := m
    simp only [List.map_cons, List.mem_cons, not_or] at h
    rw [insert, if_neg h.1]
    split
    · exact .refl _
    · exact ((ih h.2).cons _).trans (.swap _ _ _)

theorem foldl_insert_perm (done : List (String × Value))
    (h : ((done ++ members).map (·.1)).Nodup) :
    (members.foldl (fun done m => insert m.1 m.2 done) done).Perm (done ++ members) := by
  induction members generalizing done with
  | nil => simp
  | cons m members ih =>
    have hmiddle : (done ++ m :: members).Perm (m :: done ++ members) := List.perm_middle
    have hnodup := (hmiddle.map (·.1)).nodup_iff.mp h
    have hnew : m.1 ∉ done.map (·.1) := by
      rw [List.cons_append, List.map_cons, List.nodup_cons, List.map_append] at hnodup
      exact fun hm => hnodup.1 (List.mem_append_left _ hm)
    have hinsert := (insert_perm (v := m.2) hnew).append_right members
    rw [List.foldl_cons]
    refine ((ih _ ?_).trans hinsert).trans hmiddle.symm
    exact (hinsert.map (·.1)).nodup_iff.mpr hnodup

/-- Where no key occurs twice, no member is lost. -/
theorem ordered_perm (h : (members.map (·.1)).Nodup) : (ordered members).Perm members :=
  foldl_insert_perm [] h

/-- A member as it is scanned, and as it is read at this depth. -/
def Reads (depth : Nat) (scanned : String × Raw) (m : String × Value) : Prop :=
  scanned.1 = m.1 ∧ ofRaw? depth scanned.2 = some m.2

/-- The members of an object are read one by one, and put into the order of their keys. -/
theorem ofRaw?_object {depth : Nat} {scanned : List (String × Raw)}
    (h : List.Forall₂ (Reads depth) scanned members) :
    ofRaw? (depth + 1) (.object (scanned.map Raw.written)) = some (.object (ordered members)) := by
  rw [ofRaw?, Option.map_eq_some_iff]
  refine ⟨members, mapM_eq_some_iff.mpr ?_, rfl⟩
  rw [List.forall₂_map_left_iff]
  refine h.imp ?_
  rintro ⟨_, r⟩ ⟨key, v⟩ ⟨rfl, hv⟩
  simp [Raw.written, Text.text?_written, hv]

theorem ofRaw?_text (depth : Nat) (s : String) :
    ofRaw? depth (.text (Text.written s)) = some (.text s) := by
  cases depth <;> simp [ofRaw?, Text.text?_written]

end Value

end UpdateAgent.Json
