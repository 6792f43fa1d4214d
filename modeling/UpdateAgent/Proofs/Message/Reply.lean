import UpdateAgent.Proofs.Credentials
import UpdateAgent.Proofs.Json.Members
import UpdateAgent.Message.Inbound

/-!
# What a reply to a registration says

A reply is accepted if it is one object in which each of the five fields occurs once, rejected if it
says so, and malformed in every other case (`decode_verdict`). It is read in two passes, of which
each takes a list for a record; since they want lists of different lengths, no list is accepted.
-/

namespace UpdateAgent.RegistrationReply

open Json Json.Raw

variable {payload : Bytes} {raw : Raw} {c : Credentials}

/-- The members issue these credentials. -/
structure Issues (members : List (String × Raw)) (c : Credentials) : Prop where
  success : Only members "success" (.bool true)
  deviceId : OnlyText members "deviceID" c.deviceId
  username : OnlyText members "user" c.username
  password : OnlyText members "pass" c.password
  clientId : OnlyText members "clientID" c.clientId

/-- The reply issues these credentials. -/
def Accepts (payload : Bytes) (c : Credentials) : Prop :=
  ∃ members, IsObject payload members ∧ Issues members c

/-- The reply says that there was no success, whatever else it says. -/
def Rejects (payload : Bytes) : Prop :=
  Document payload (.list [.bool false]) ∨
    ∃ members, IsObject payload members ∧ Only members "success" (.bool false)

/-! ## The two passes -/

theorem success?_eq_some_iff {b : Bool} :
    success? raw = some b ↔
      raw = .list [.bool b] ∨ ∃ written members, raw = .object written ∧
        List.Forall₂ Names written members ∧ Only members "success" (.bool b) := by
  have hbool {field : Raw} : field.bool? = some b ↔ field = .bool b := by
    cases field <;> simp [bool?]
  have hfield : success? raw = ((raw.fields? ["success"]).bind only?).bind bool? :=
    (Option.bind_assoc _ _ _).symm
  rw [hfield, Option.bind_eq_some_iff]
  simp only [hbool, exists_eq_right, only?_fields?_eq_some_iff]

/-- The second pass reads four strings. -/
theorem credentials?_eq_some_iff : credentials? raw = some c ↔ ∃ fields,
    raw.fields? credentialFields = some fields ∧
      List.Forall₂ IsText fields [c.deviceId, c.username, c.password, c.clientId] := by
  rw [credentials?, Option.bind_eq_some_iff]
  simp only [Credentials.ofFields?_eq_some_iff]

theorem credentials?_object {written : List (List Piece × Raw)} {members : List (String × Raw)}
    (hnames : List.Forall₂ Names written members) (hsuccess : Only members "success" (.bool true)) :
    credentials? (.object written) = some c ↔ Issues members c := by
  rw [credentials?_eq_some_iff, texts_object hnames]
  simp only [credentialFields, List.forall₂_cons, List.Forall₂.nil, and_true]
  exact ⟨fun ⟨hdevice, hname, hword, hclient⟩ => ⟨hsuccess, hdevice, hname, hword, hclient⟩,
    fun ⟨_, hdevice, hname, hword, hclient⟩ => ⟨hdevice, hname, hword, hclient⟩⟩

/-- No list is a record of one field and a record of four. -/
theorem credentials?_of_success {items : List Raw} {b : Bool}
    (h : success? (.list items) = some b) : credentials? (.list items) = none := by
  rcases success?_eq_some_iff.mp h with heq | ⟨_, _, heq, -⟩
  · cases heq
    rfl
  · cases heq

/-! ## The reply -/

/-- The members of a reply that issues credentials, as they are written. -/
def members (c : Credentials) : List (String × Raw) :=
  [("clientID", .text (Text.written c.clientId)), ("deviceID", .text (Text.written c.deviceId)),
    ("pass", .text (Text.written c.password)), ("success", .bool true),
    ("user", .text (Text.written c.username))]

theorem issues_members (c : Credentials) : Issues (members c) c where
  success := rfl
  deviceId := ⟨_, rfl, _, rfl, Text.spells_written _⟩
  username := ⟨_, rfl, _, rfl, Text.spells_written _⟩
  password := ⟨_, rfl, _, rfl, Text.spells_written _⟩
  clientId := ⟨_, rfl, _, rfl, Text.spells_written _⟩

theorem accepts_document (c : Credentials) : Accepts (document c).bytes c :=
  ⟨members c, isObject_of_read? (Value.read?_bytes rfl), issues_members c⟩

theorem decode_eq_ok_iff : decode payload = .ok c ↔ Accepts payload c := by
  constructor
  · intro h
    rw [decode] at h
    split at h
    · cases h
    rename_i raw hread
    have hdocument := read?_eq_some_iff.mp hread
    split at h
    · cases h
    · cases h
    rename_i hsuccess
    split at h
    · cases h
    rename_i c' hcredentials
    cases h
    rcases success?_eq_some_iff.mp hsuccess with rfl | ⟨written, members, rfl, hnames, honly⟩
    · rw [credentials?_of_success hsuccess] at hcredentials
      cases hcredentials
    · exact ⟨members, ⟨written, hdocument, hnames⟩,
        (credentials?_object hnames honly).mp hcredentials⟩
  · rintro ⟨members, ⟨written, hdocument, hnames⟩, hissues⟩
    have hsuccess : success? (.object written) = some true :=
      success?_eq_some_iff.mpr (.inr ⟨written, members, rfl, hnames, hissues.success⟩)
    have hcredentials := (credentials?_object hnames hissues.success).mpr hissues
    rw [decode, read?_eq_some_iff.mpr hdocument]
    simp only [hsuccess, hcredentials]

theorem decode_eq_rejected_iff : decode payload = .error .rejected ↔ Rejects payload := by
  have hrejected : decode payload = .error .rejected ↔
      ∃ raw, Document payload raw ∧ success? raw = some false := by
    simp only [← read?_eq_some_iff, decode]
    rcases read? payload with _ | raw
    · simp
    · simp only [Option.some.injEq, exists_eq_left']
      rcases success? raw with _ | _ | _
      · simp
      · simp
      · rcases credentials? raw with _ | _ <;> simp
  rw [hrejected]
  constructor
  · rintro ⟨raw, hdocument, hsuccess⟩
    rcases success?_eq_some_iff.mp hsuccess with rfl | ⟨written, members, rfl, hnames, honly⟩
    · exact .inl hdocument
    · exact .inr ⟨members, ⟨written, hdocument, hnames⟩, honly⟩
  · rintro (hdocument | ⟨members, ⟨written, hdocument, hnames⟩, honly⟩)
    · exact ⟨_, hdocument, success?_eq_some_iff.mpr (.inl rfl)⟩
    · exact ⟨_, hdocument, success?_eq_some_iff.mpr (.inr ⟨written, members, rfl, hnames, honly⟩)⟩

/-- A reply that is not taken is malformed or a rejection. -/
theorem decode_error {error : MessageError} (h : decode payload = .error error) :
    error = .malformed ∨ error = .rejected := by
  rw [decode] at h
  split at h
  · exact .inl (Except.error.inj h).symm
  split at h
  · exact .inl (Except.error.inj h).symm
  · exact .inr (Except.error.inj h).symm
  split at h
  · exact .inl (Except.error.inj h).symm
  · cases h

/-- The first pass takes a list of one truth value. -/
theorem success?_list {values : List Raw} {b : Bool} :
    success? (.list values) = some b ↔ values = [.bool b] := by
  rw [success?_eq_some_iff]
  simp

/-- The second pass takes a list of four strings. -/
theorem credentials?_list {values : List Raw} : credentials? (.list values) = some c ↔
    List.Forall₂ IsText values [c.deviceId, c.username, c.password, c.clientId] := by
  rw [credentials?_eq_some_iff]
  constructor
  · rintro ⟨fields, hfields, htexts⟩
    rcases fields?_eq_some_iff.mp hfields with ⟨heq, -⟩ | ⟨_, _, heq, -⟩ <;> cases heq
    exact htexts
  · intro h
    exact ⟨values, fields?_eq_some_iff.mpr (.inl ⟨rfl, h.length_eq⟩), h⟩

/-- A reply is accepted with the credentials that it issues, rejected if it says so, and malformed
in every other case. Each of the two passes takes a list for a record, but no list is accepted. The
reply that issues credentials is accepted with these. -/
theorem decode_verdict :
    (∀ payload c, decode payload = .ok c ↔ Accepts payload c) ∧
    (∀ payload, decode payload = .error .rejected ↔ Rejects payload) ∧
    (∀ payload, decode payload = .error .malformed ↔
      (∀ c, ¬ Accepts payload c) ∧ ¬ Rejects payload) ∧
    (∀ values b, success? (.list values) = some b ↔ values = [.bool b]) ∧
    (∀ values c, credentials? (.list values) = some c ↔
      List.Forall₂ IsText values [c.deviceId, c.username, c.password, c.clientId]) ∧
    (∀ payload values c, ¬ (Document payload (.list values) ∧ decode payload = .ok c)) ∧
    ∀ c, decode (document c).bytes = .ok c := by
  refine ⟨fun _ _ => decode_eq_ok_iff, fun _ => decode_eq_rejected_iff, fun payload => ?_,
    fun _ _ => success?_list, fun _ _ => credentials?_list, ?_,
    fun c => decode_eq_ok_iff.mpr (accepts_document c)⟩
  · rw [← decode_eq_rejected_iff]
    simp only [← decode_eq_ok_iff]
    constructor
    · intro h
      rw [h]
      exact ⟨nofun, nofun⟩
    · rintro ⟨haccepts, hrejects⟩
      rcases hdecode : decode payload with error | c
      · rcases decode_error hdecode with rfl | rfl
        · rfl
        · exact absurd hdecode hrejects
      · exact absurd hdecode (haccepts c)
  · rintro payload values c ⟨hlist, hdecode⟩
    obtain ⟨members, ⟨written, hobject, -⟩, -⟩ := decode_eq_ok_iff.mp hdecode
    have heq := (read?_eq_some_iff.mpr hlist).symm.trans (read?_eq_some_iff.mpr hobject)
    cases heq

/-- What one pass takes for a record the other one does not. -/
example : decode (Utf8.ofText "[false]") = .error .rejected ∧
    decode (Utf8.ofText "[true]") = .error .malformed := by
  decide +kernel

end UpdateAgent.RegistrationReply
