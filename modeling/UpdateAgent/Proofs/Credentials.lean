import UpdateAgent.Proofs.Json.Record
import UpdateAgent.Proofs.Json.Value
import UpdateAgent.Device
import UpdateAgent.Store.Error

/-!
# Reading back credentials

The document of credentials is read back as what was written (`ofDocument?_bytes`), and what else is
read are the documents that give the four strings (`ofDocument?_eq_some_iff`). Of credentials that
were put into a store one after the other, `stored` are those whose `put` came off.
-/

namespace UpdateAgent.Credentials

open Json

/-- Credentials are four strings. -/
theorem ofFields?_eq_some_iff {fields : List Raw} {c : Credentials} :
    ofFields? fields = some c ↔ List.Forall₂ IsText fields
      [c.deviceId, c.username, c.password, c.clientId] := by
  rcases fields with
    _ | ⟨deviceId, _ | ⟨username, _ | ⟨password, _ | ⟨clientId, _ | ⟨other, others⟩⟩⟩⟩⟩
  case cons.cons.cons.cons.nil =>
    simp only [ofFields?, Option.bind_eq_bind, Option.bind_eq_some_iff, Option.pure_def,
      Option.some.injEq, Raw.text?_eq_some_iff, List.forall₂_cons, List.Forall₂.nil, and_true]
    constructor
    · rintro ⟨_, hdevice, _, hname, _, hword, _, hclient, rfl⟩
      exact ⟨hdevice, hname, hword, hclient⟩
    · rintro ⟨hdevice, hname, hword, hclient⟩
      exact ⟨_, hdevice, _, hname, _, hword, _, hclient, rfl⟩
  all_goals simp [ofFields?]

/-- The members of the stored document as they are scanned. -/
def members (c : Credentials) : List (String × Raw) :=
  [("device_id", .text (Text.written c.deviceId)), ("username", .text (Text.written c.username)),
    ("password", .text (Text.written c.password)), ("client_id", .text (Text.written c.clientId))]

/-- The fields of the stored document are read back as they were written. -/
theorem ofDocument?_bytes (c : Credentials) : ofDocument? c.document.bytes = some c := by
  have hread : Raw.read? c.document.bytes = some (.object (c.members.map Raw.written)) :=
    Value.read?_bytes rfl
  have hfields : Raw.fields? documentFields (.object (c.members.map Raw.written)) =
      some (c.members.map (·.2)) := by
    rw [Raw.fields?_written]
    rfl
  rw [ofDocument?, hread]
  simp only [Option.bind_eq_bind, Option.bind_some, hfields]
  simp [members, ofFields?, Raw.text?, Text.text?_written]

/-! ## Documents of another version -/

/-- The members give these credentials: each of the four is the one member of its name, and a
string. -/
structure Named (members : List (String × Raw)) (c : Credentials) : Prop where
  deviceId : OnlyText members "device_id" c.deviceId
  username : OnlyText members "username" c.username
  password : OnlyText members "password" c.password
  clientId : OnlyText members "client_id" c.clientId

/-- The document gives these credentials: it is an object with their members, whatever else is in
it, or the list of the four strings. -/
def Given (bytes : Bytes) (c : Credentials) : Prop :=
  (∃ members, IsObject bytes members ∧ Named members c) ∨
    ∃ values, Document bytes (.list values) ∧
      List.Forall₂ IsText values [c.deviceId, c.username, c.password, c.clientId]

theorem named_iff {members : List (String × Raw)} {c : Credentials} :
    List.Forall₂ (OnlyText members) documentFields
      [c.deviceId, c.username, c.password, c.clientId] ↔ Named members c := by
  simp only [documentFields, List.forall₂_cons, List.Forall₂.nil, and_true]
  exact ⟨fun ⟨hdevice, hname, hword, hclient⟩ => ⟨hdevice, hname, hword, hclient⟩,
    fun ⟨hdevice, hname, hword, hclient⟩ => ⟨hdevice, hname, hword, hclient⟩⟩

/-- Credentials are read from the documents that give them, and from no others. -/
theorem ofDocument?_eq_some_iff {bytes : Bytes} {c : Credentials} :
    ofDocument? bytes = some c ↔ Given bytes c := by
  simp only [ofDocument?, Option.bind_eq_bind, Option.bind_eq_some_iff, ofFields?_eq_some_iff,
    Raw.read?_eq_some_iff]
  constructor
  · rintro ⟨raw, hdocument, fields, hfields, htexts⟩
    rcases Raw.fields?_eq_some_iff.mp hfields with ⟨rfl, -⟩ | ⟨written, members, rfl, hnames, -⟩
    · exact .inr ⟨fields, hdocument, htexts⟩
    · exact .inl ⟨members, ⟨written, hdocument, hnames⟩,
        named_iff.mp ((Raw.texts_object hnames).mp ⟨fields, hfields, htexts⟩)⟩
  · rintro (⟨members, ⟨written, hdocument, hnames⟩, hnamed⟩ | ⟨values, hdocument, htexts⟩)
    · exact ⟨_, hdocument, (Raw.texts_object hnames).mpr (named_iff.mpr hnamed)⟩
    · exact ⟨_, hdocument, values,
        Raw.fields?_eq_some_iff.mpr (.inl ⟨rfl, htexts.length_eq⟩), htexts⟩

/-! ## Credentials that were stored -/

/-- The credentials whose `put` came off, in order. -/
def stored (puts : List (Credentials × Except StoreError Unit)) : List Credentials :=
  puts.filterMap fun
    | (c, .ok ()) => some c
    | (_, .error _) => none

@[simp]
theorem stored_nil : stored [] = [] :=
  rfl

@[simp]
theorem stored_cons_ok (c : Credentials) (puts : List (Credentials × Except StoreError Unit)) :
    stored ((c, .ok ()) :: puts) = c :: stored puts :=
  rfl

@[simp]
theorem stored_cons_error (c : Credentials) (error : StoreError)
    (puts : List (Credentials × Except StoreError Unit)) :
    stored ((c, .error error) :: puts) = stored puts :=
  rfl

@[simp]
theorem stored_append (first rest : List (Credentials × Except StoreError Unit)) :
    stored (first ++ rest) = stored first ++ stored rest :=
  List.filterMap_append

end UpdateAgent.Credentials
