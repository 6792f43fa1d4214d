import UpdateAgent.Agent.Offline
import UpdateAgent.Bench.Rehearsal
import UpdateAgent.Digest
import UpdateAgent.Json.Typed
import UpdateAgent.Loopback.Basic
import UpdateAgent.Loopback.Command
import UpdateAgent.Mac.Document
import UpdateAgent.Main
import UpdateAgent.Proofs.Message.Reply
import UpdateAgent.Proofs.Session.Attempts
import UpdateAgent.Proofs.Session.Boots
import UpdateAgent.Proofs.Session.Connections
import UpdateAgent.Proofs.Session.Fleet
import UpdateAgent.Proofs.Session.Undisturbed
import UpdateAgent.Proofs.Store.Atomic
import UpdateAgent.Text.Picked
import UpdateAgent.Proofs.File.Parts
import UpdateAgent.Proofs.Store.Address
import UpdateAgent.Proofs.Machine.Progress
import UpdateAgent.Proofs.Session.Counted
import UpdateAgent.Proofs.Deaf
import UpdateAgent.Proofs.Session.Echo
import UpdateAgent.Proofs.Parallel
import UpdateAgent.Proofs.Session.Password
import UpdateAgent.Proofs.Store.Confined
import UpdateAgent.Proofs.Store.Devices
import UpdateAgent.Proofs.Store.Verdict
import UpdateAgent.Proofs.Session.Deadline
import UpdateAgent.Proofs.Message.Trigger
import UpdateAgent.Proofs.Message.Payload
import UpdateAgent.Proofs.Machine.Downloads
import UpdateAgent.Proofs.Mac.Spelling
