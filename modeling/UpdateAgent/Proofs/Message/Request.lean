import UpdateAgent.Proofs.Mac
import UpdateAgent.Proofs.Message.Envelope

/-!
# Requests on the registration topic

Everyone who is subscribed to the registration topic hears every request. No request is taken for a
reply (`decode_request`), and it tells from which device it comes (`mac_of_request`).
-/

namespace UpdateAgent.DeviceIdentity

open Json

variable {identity identity' : DeviceIdentity}

/-- The members of the payload of a request as they are written. -/
def payloadMembers (identity : DeviceIdentity) : List (String × Raw) :=
  [("mac_address", .text (Text.written identity.mac.text)),
    ("firmwareVersion", .text (Text.written identity.version))]

/-- The payload of a request as it is written. -/
def payload (identity : DeviceIdentity) : Raw :=
  .object (identity.payloadMembers.map Raw.written)

theorem read?_request (identity : DeviceIdentity) :
    Raw.read? identity.request.bytes =
      some (.object ((Action.add.members identity.payload).map Raw.written)) :=
  Action.read?_envelope rfl

/-- A request does not say whether there was success. -/
theorem decode_request (identity : DeviceIdentity) :
    RegistrationReply.decode identity.request.bytes = .error .malformed :=
  identity.unread_request.reply

/-- Requests of devices with different addresses differ. -/
theorem mac_of_request (h : identity.request.bytes = identity'.request.bytes) :
    identity.mac = identity'.mac := by
  have hread := congrArg Raw.read? h
  rw [read?_request, read?_request] at hread
  have hmac : Text.written identity.mac.text = Text.written identity'.mac.text := by
    simp [Action.members, payload, payloadMembers, Raw.written] at hread
    exact hread.1
  have htext := congrArg Text.text? hmac
  rw [Text.text?_written, Text.text?_written] at htext
  exact MacAddress.text_injective (Option.some.inj htext)

end UpdateAgent.DeviceIdentity
