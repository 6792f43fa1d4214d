import UpdateAgent.Proofs.Json.Members
import UpdateAgent.Proofs.Mac
import UpdateAgent.Proofs.Message.Envelope

/-!
# What the messages of a device tell

A message of a device is a document of an action and a payload, and the payload is an object of
texts. It tells these texts character by character (`Tells`), so one message is never taken for
another (`payloads_tell`).
-/

namespace UpdateAgent

open Json

variable {bytes : Bytes} {action action' : String} {fields fields' : List (String × String)}

/-- A member as it is written spells this key, and its value is a string that stands for this
text. -/
def SpellsField (written : List Piece × Raw) (field : String × String) : Prop :=
  Spells written.1 field.1.toList ∧ IsText written.2 field.2

/-- A member whose value is a text. -/
def textMember (field : String × String) : String × Value :=
  (field.1, .text field.2)

/-- The bytes tell an action and the fields of its payload: they write one object of just these two
members, of which the payload is an object of just these fields in this order, and what is read from
them is this action and this payload. -/
structure Tells (bytes : Bytes) (action : String) (fields : List (String × String)) : Prop where
  writes : ∃ told payload, IsObject bytes [("action", told), ("payload", .object payload)] ∧
    IsText told action ∧ List.Forall₂ SpellsField payload fields
  reads : ∃ members, Value.read? bytes =
      some (.object [("action", .text action), ("payload", .object members)]) ∧
    members.Perm (fields.map textMember)

theorem forall₂_spellsField_unique {payload : List (List Piece × Raw)}
    (h : List.Forall₂ SpellsField payload fields) (h' : List.Forall₂ SpellsField payload fields') :
    fields = fields' := by
  induction h generalizing fields' with
  | nil =>
    cases h'
    rfl
  | cons this _ ih =>
    cases h' with
    | cons this' others' =>
      have hkey := Text.text?_eq_some_iff.mpr this.1
      rw [Text.text?_eq_some_iff.mpr this'.1] at hkey
      exact congrArg₂ _ (Prod.ext (Option.some.inj hkey).symm (this.2.unique this'.2)) (ih others')

/-- Bytes tell one thing. -/
theorem Tells.unique (h : Tells bytes action fields) (h' : Tells bytes action' fields') :
    action = action' ∧ fields = fields' := by
  obtain ⟨told, payload, hobject, haction, hfields⟩ := h.writes
  obtain ⟨told', payload', hobject', haction', hfields'⟩ := h'.writes
  cases hobject.unique hobject'
  exact ⟨haction.unique haction', forall₂_spellsField_unique hfields hfields'⟩

/-! ## Envelopes -/

/-- The field of a payload as it is scanned. -/
def scannedField (field : String × String) : String × Raw :=
  (field.1, .text (Text.written field.2))

theorem rawMembers?_textMember (fields : List (String × String)) :
    Value.rawMembers? (fields.map textMember) =
      some ((fields.map scannedField).map Raw.written) := by
  induction fields with
  | nil => rfl
  | cons field fields ih =>
    simp only [List.map_cons, textMember, Value.rawMembers?, Value.raw?, ih] at ih ⊢
    rfl

/-- An envelope tells what it is made of, if no field occurs twice in it. -/
theorem Action.tells_envelope (action : Action) (h : (fields.map (·.1)).Nodup) :
    Tells (action.envelope (.object (fields.map textMember))).bytes action.text fields := by
  have hraw : (Value.object (fields.map textMember)).raw? =
      some (.object ((fields.map scannedField).map Raw.written)) := by
    rw [Value.raw?, rawMembers?_textMember]
    rfl
  have hread := action.read?_envelope hraw
  constructor
  · refine ⟨_, _, isObject_of_read? hread, ⟨_, rfl, Text.spells_written _⟩, ?_⟩
    rw [List.map_map, List.forall₂_map_left_iff]
    exact List.forall₂_same.mpr fun field _ =>
      ⟨Text.spells_written _, _, rfl, Text.spells_written _⟩
  · have hfields : List.Forall₂ (Value.Reads 125) (fields.map scannedField)
        (fields.map textMember) := by
      rw [List.forall₂_map_left_iff, List.forall₂_map_right_iff]
      exact List.forall₂_same.mpr fun field _ => ⟨rfl, Value.ofRaw?_text _ _⟩
    have hkeys : ((fields.map textMember).map (·.1)).Nodup := by
      rwa [List.map_map]
    have hmembers : List.Forall₂ (Value.Reads 126)
        (action.members (.object ((fields.map scannedField).map Raw.written)))
        [("action", .text action.text),
          ("payload", .object (Value.ordered (fields.map textMember)))] :=
      .cons ⟨rfl, Value.ofRaw?_text _ _⟩ (.cons ⟨rfl, Value.ofRaw?_object hfields⟩ .nil)
    refine ⟨_, ?_, Value.ordered_perm hkeys⟩
    rw [Value.read?, hread, Option.bind_some]
    exact Value.ofRaw?_object hmembers

/-! ## Reports and requests -/

/-- What a report tells: its status, its address and, if there is one, its error. -/
def StatusReport.told (report : StatusReport) : List (String × String) :=
  [("status", report.status.text), ("url", report.url)] ++
    report.error.toList.map fun error => ("error", error)

theorem StatusReport.tells_message (report : StatusReport) :
    Tells report.message.bytes "set" report.told := by
  have hmessage : report.message = Action.set.envelope (.object (report.told.map textMember)) := by
    obtain ⟨status, url, error⟩ := report
    cases error <;> rfl
  have hkeys : (report.told.map (·.1)).Nodup := by
    obtain ⟨status, url, error⟩ := report
    cases error <;> simp [told]
  rw [hmessage]
  exact Action.set.tells_envelope hkeys

theorem UpdateStatus.text_injective : Function.Injective UpdateStatus.text := by
  intro status status' h
  revert h
  cases status <;> cases status' <;> decide

/-- A report is known by what it tells. -/
theorem StatusReport.told_injective : Function.Injective StatusReport.told := by
  rintro ⟨status, url, error⟩ ⟨status', url', error'⟩ h
  simp only [told, List.cons_append, List.nil_append, List.cons.injEq, Prod.mk.injEq,
    true_and] at h
  obtain ⟨hstatus, rfl, herror⟩ := h
  cases UpdateStatus.text_injective hstatus
  cases error <;> cases error' <;> simp_all

/-- What a request tells: the address and the version of the device. -/
def DeviceIdentity.told (identity : DeviceIdentity) : List (String × String) :=
  [("mac_address", identity.mac.text), ("firmwareVersion", identity.version)]

theorem DeviceIdentity.tells_request (identity : DeviceIdentity) :
    Tells identity.request.bytes "add" identity.told := by
  have hrequest : identity.request =
      Action.add.envelope (.object (identity.told.map textMember)) := rfl
  have hkeys : (identity.told.map (·.1)).Nodup := by
    simp [told]
  rw [hrequest]
  exact Action.add.tells_envelope hkeys

theorem DeviceIdentity.told_injective : Function.Injective DeviceIdentity.told := by
  rintro ⟨mac, version⟩ ⟨mac', version'⟩ h
  simp only [told, List.cons.injEq, Prod.mk.injEq, true_and, and_true] at h
  obtain ⟨hmac, rfl⟩ := h
  cases MacAddress.text_injective hmac
  rfl

/-- A report tells that it sets a status, for an address and with the error if there is one, and a
request that a device with its address and its version be added. These texts are told as they are,
so two reports that are written alike are one, as are two requests, and no request is written as a
report is. -/
theorem payloads_tell :
    (∀ status url, Tells (StatusReport.message ⟨status, url, none⟩).bytes "set"
      [("status", status.text), ("url", url)]) ∧
    (∀ status url error, Tells (StatusReport.message ⟨status, url, some error⟩).bytes "set"
      [("status", status.text), ("url", url), ("error", error)]) ∧
    (∀ identity : DeviceIdentity, Tells identity.request.bytes "add"
      [("mac_address", identity.mac.text), ("firmwareVersion", identity.version)]) ∧
    (∀ report report' : StatusReport,
      report.message.bytes = report'.message.bytes ↔ report = report') ∧
    (∀ identity identity' : DeviceIdentity,
      identity.request.bytes = identity'.request.bytes ↔ identity = identity') ∧
    ∀ (identity : DeviceIdentity) (report : StatusReport),
      identity.request.bytes ≠ report.message.bytes := by
  refine ⟨fun status url => StatusReport.tells_message ⟨status, url, none⟩,
    fun status url error => StatusReport.tells_message ⟨status, url, some error⟩,
    DeviceIdentity.tells_request, fun report report' => ⟨fun h => ?_, fun h => h ▸ rfl⟩,
    fun identity identity' => ⟨fun h => ?_, fun h => h ▸ rfl⟩, fun identity report h => ?_⟩
  · have htells := report'.tells_message
    rw [← h] at htells
    exact StatusReport.told_injective (report.tells_message.unique htells).2
  · have htells := identity'.tells_request
    rw [← h] at htells
    exact DeviceIdentity.told_injective (identity.tells_request.unique htells).2
  · have htells := report.tells_message
    rw [← h] at htells
    exact absurd (identity.tells_request.unique htells).1 (by decide)

end UpdateAgent
