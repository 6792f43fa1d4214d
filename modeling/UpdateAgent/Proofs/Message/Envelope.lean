import UpdateAgent.Proofs.Json.Value
import UpdateAgent.Message.Inbound
import UpdateAgent.Message.Outbound

/-!
# What a device says to itself

The messages of a device are envelopes, objects of an action and a payload, whatever texts they
carry. What a device listens for has other members, so it cannot read its own messages
(`unread_request`, `unread_report`).
-/

namespace UpdateAgent

open Json

variable {action : Action} {payload : Value} {r : Raw}

/-- A device can read nothing from these bytes. -/
structure Unread (bytes : Bytes) : Prop where
  reply : RegistrationReply.decode bytes = .error .malformed
  trigger : UpdateTrigger.decode bytes = .error .malformed

namespace Action

/-- The members of an envelope as they are written. -/
def members (action : Action) (r : Raw) : List (String × Raw) :=
  [("action", .text (Text.written action.text)), ("payload", r)]

theorem read?_envelope (h : payload.raw? = some r) :
    Raw.read? (action.envelope payload).bytes =
      some (.object ((action.members r).map Raw.written)) := by
  apply Value.read?_bytes
  simp [envelope, Value.raw?, Value.rawMembers?, h, members, Raw.written]

/-- There is no field in an envelope but the action and the payload. -/
theorem fields?_members {name : String} (haction : name ≠ "action") (hpayload : name ≠ "payload") :
    Raw.fields? [name] (.object ((action.members r).map Raw.written)) = none := by
  rw [Raw.fields?_written]
  simp [members, haction.symm, hpayload.symm, Raw.only?]

/-- Whatever its payload is, no envelope is read. -/
theorem unread_envelope (h : payload.raw? = some r) : Unread (action.envelope payload).bytes := by
  constructor
  · have hsuccess :
        RegistrationReply.success? (.object ((action.members r).map Raw.written)) = none := by
      rw [RegistrationReply.success?, fields?_members (by decide) (by decide)]
      rfl
    rw [RegistrationReply.decode, read?_envelope h]
    simp only [hsuccess]
  · have hurl : UpdateTrigger.url? (action.envelope payload).bytes = none := by
      rw [UpdateTrigger.url?, read?_envelope h, Option.bind_eq_bind, Option.bind_some,
        fields?_members (by decide) (by decide)]
      rfl
    rw [UpdateTrigger.decode, hurl]

end Action

/-- A request does not say whether there was success, and names no address. -/
theorem DeviceIdentity.unread_request (identity : DeviceIdentity) :
    Unread identity.request.bytes :=
  Action.unread_envelope rfl

/-- Neither does a report, whatever the address and the error are. -/
theorem StatusReport.unread_message (report : StatusReport) : Unread report.message.bytes := by
  obtain ⟨status, url, error⟩ := report
  cases error with
  | none => exact Action.unread_envelope rfl
  | some error => exact Action.unread_envelope rfl

end UpdateAgent
