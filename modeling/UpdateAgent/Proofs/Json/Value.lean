import UpdateAgent.Proofs.Json.Shape
import UpdateAgent.Proofs.Json.Text
import UpdateAgent.Json.Value

/-!
# Reading back JSON documents

A document that was written is one of the grammar (`written_chars`), so its shape is read back
(`read?_bytes`), and the fields of a record are found in it by their names (`fields?_written`).
-/

namespace UpdateAgent.Json

namespace Raw

/-- A member with its key as it is written. -/
def written (m : String × Raw) : List Piece × Raw :=
  (Text.written m.1, m.2)

/-- Written keys are decoded again. -/
theorem keyed?_written (members : List (String × Raw)) :
    keyed? (members.map written) = some members := by
  induction members with
  | nil => rfl
  | cons m members ih =>
    rw [keyed?] at ih
    simp [keyed?, written, Text.text?_written, ih]

/-- The fields of a record are found by their names. -/
theorem fields?_written (names : List String) (members : List (String × Raw)) :
    fields? names (.object (members.map written)) =
      names.mapM fun name => only? ((members.filter (·.1 = name)).map (·.2)) := by
  rw [fields?, keyed?_written]
  rfl

/-! ## Written values -/

/-- A value without white space around it is an element. -/
theorem written_element {r : Raw} {bytes : Bytes} (h : Written (.value r) bytes) :
    Written (.element r) bytes := by
  have helement := Written.element blank_nil h blank_nil
  rwa [List.nil_append, List.append_nil] at helement

theorem written_key {key : List Piece} {bytes : Bytes} (h : Literal key bytes) :
    Key key (bytes ++ [ascii ':']) :=
  .colon blank_nil h blank_nil

end Raw

namespace Value

mutual

/-- The shape that a written value has, if it holds no number. -/
def raw? : Value → Option Raw
  | null => some .null
  | bool b => some (.bool b)
  | number _ => none
  | text s => some (.text (Text.written s))
  | list items => (rawItems? items).map .list
  | object members => (rawMembers? members).map .object

/-- The shapes of the items of a list. -/
def rawItems? : List Value → Option (List Raw)
  | [] => some []
  | item :: items => do
    let r ← raw? item
    let rs ← rawItems? items
    pure (r :: rs)

/-- The shapes of the members of an object. -/
def rawMembers? : List (String × Value) → Option (List (List Piece × Raw))
  | [] => some []
  | (key, value) :: members => do
    let r ← raw? value
    let rs ← rawMembers? members
    pure ((Text.written key, r) :: rs)

end

theorem itemChars_cons (item : Value) (items : List Value) :
    itemChars false (item :: items) = ',' :: itemChars true (item :: items) := by
  simp [itemChars]

theorem memberChars_cons (m : String × Value) (members : List (String × Value)) :
    memberChars false (m :: members) = ',' :: memberChars true (m :: members) := by
  simp [memberChars]

-- By recursion over the value: each item or member is written as an element.
mutual

/-- A value without numbers is written as the grammar has it. -/
theorem written_chars : ∀ (v : Value) {r : Raw}, v.raw? = some r →
    Written (.value r) (Utf8.encode v.chars)
  | null, r, h => by
    cases h
    exact .null
  | bool true, r, h => by
    cases h
    exact .true
  | bool false, r, h => by
    cases h
    exact .false
  | number _, r, h => by simp [raw?] at h
  | text s, r, h => by
    cases h
    rw [chars]
    exact .text (Text.literal_quote s)
  | list [], r, h => by
    cases h
    exact .emptyList blank_nil
  | list (item :: items), r, h => by
    obtain ⟨rs, hrs, rfl⟩ := Option.map_eq_some_iff.mp h
    obtain ⟨text, htext, hwritten⟩ := written_itemChars item items hrs
    rw [chars, Utf8.encode_cons, htext]
    exact .list hwritten
  | object [], r, h => by
    cases h
    exact .emptyObject blank_nil
  | object (m :: members), r, h => by
    obtain ⟨rs, hrs, rfl⟩ := Option.map_eq_some_iff.mp h
    obtain ⟨text, htext, hwritten⟩ := written_memberChars m members hrs
    rw [chars, Utf8.encode_cons, htext]
    exact .object hwritten

theorem written_itemChars : ∀ (item : Value) (items : List Value) {rs : List Raw},
    rawItems? (item :: items) = some rs → ∃ text,
      Utf8.encode (itemChars true (item :: items)) = text ++ [ascii ']'] ∧
        Written (.elements rs) text
  | item, [], rs, h => by
    obtain ⟨r, hr, h⟩ := Option.bind_eq_some_iff.mp h
    cases h
    refine ⟨_, ?_, .lastElement (Raw.written_element (written_chars item hr))⟩
    simp [itemChars]
    rfl
  | item, next :: items, rs, h => by
    obtain ⟨r, hr, h⟩ := Option.bind_eq_some_iff.mp h
    obtain ⟨rs', hrs, h⟩ := Option.bind_eq_some_iff.mp h
    cases h
    obtain ⟨text, htext, hwritten⟩ := written_itemChars next items hrs
    refine ⟨_, ?_, .nextElement (Raw.written_element (written_chars item hr)) hwritten⟩
    rw [itemChars, itemChars_cons]
    simp [htext]
    rfl

theorem written_memberChars : ∀ (m : String × Value) (members : List (String × Value))
    {rs : List (List Piece × Raw)}, rawMembers? (m :: members) = some rs → ∃ text,
      Utf8.encode (memberChars true (m :: members)) = text ++ [ascii '}'] ∧
        Written (.members rs) text
  | (key, v), [], rs, h => by
    obtain ⟨r, hr, h⟩ := Option.bind_eq_some_iff.mp h
    cases h
    refine ⟨_, ?_, .lastMember (Raw.written_key (Text.literal_quote key))
      (Raw.written_element (written_chars v hr))⟩
    simp [memberChars]
    rfl
  | (key, v), next :: members, rs, h => by
    obtain ⟨r, hr, h⟩ := Option.bind_eq_some_iff.mp h
    obtain ⟨rs', hrs, h⟩ := Option.bind_eq_some_iff.mp h
    cases h
    obtain ⟨text, htext, hwritten⟩ := written_memberChars next members hrs
    refine ⟨_, ?_, .nextMember (Raw.written_key (Text.literal_quote key))
      (Raw.written_element (written_chars v hr)) hwritten⟩
    rw [memberChars, memberChars_cons]
    simp [htext]
    rfl

end

/-- A written document has the shape of its value. -/
theorem read?_bytes {v : Value} {r : Raw} (h : v.raw? = some r) : Raw.read? v.bytes = some r :=
  Raw.read?_eq_some_iff.mpr (Raw.written_element (written_chars v h))

end Value

end UpdateAgent.Json
