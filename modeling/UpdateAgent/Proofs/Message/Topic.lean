import UpdateAgent.Message.Topic
import Mathlib.Logic.Function.Defs

/-!
# Topics are told apart

No topic of a device is the registration topic, or a topic of the other kind, and each of them tells
the device.
-/

namespace UpdateAgent.Topic

/-- A status report does not go to the registration topic. -/
theorem status_ne_register (deviceId : String) : status deviceId ≠ register := by
  intro h
  have hlength := congrArg String.length h
  -- The device's own name between its parts makes the one topic no shorter.
  simp only [status, register, String.length_append] at hlength
  have hslash : "/".length = 1 := rfl
  have hstatus : "/update/status".length = 14 := rfl
  have hregister : "/register".length = 9 := rfl
  omega

/-- The last character of a text that ends so. -/
theorem getLast?_append_of_some {s : String} {c : Char} (h : s.toList.getLast? = some c)
    (start : String) : (start ++ s).toList.getLast? = some c := by
  rw [String.toList_append, List.getLast?_append, h]
  rfl

theorem getLast?_update (deviceId : String) : (update deviceId).toList.getLast? = some 'e' :=
  getLast?_append_of_some rfl _

/-- Triggers and replies are heard on different topics. -/
theorem update_ne_register (deviceId : String) : update deviceId ≠ register := by
  intro h
  have hlast := getLast?_update deviceId
  rw [h] at hlast
  cases hlast

/-- No device hears triggers where a device reports. -/
theorem update_ne_status (deviceId deviceId' : String) : update deviceId ≠ status deviceId' := by
  intro h
  have hlast := getLast?_update deviceId
  have hstatus : (status deviceId').toList.getLast? = some 's' := getLast?_append_of_some rfl _
  rw [h, hstatus] at hlast
  cases hlast

/-- What stands between two texts is told by the whole. -/
theorem between_injective (start rest : String) :
    Function.Injective fun s : String => start ++ s ++ rest := by
  intro s s' h
  have hlist := congrArg String.toList h
  simp only [String.toList_append, List.append_cancel_right_eq, List.append_cancel_left_eq]
    at hlist
  exact String.toList_inj.mp hlist

theorem update_injective : Function.Injective update :=
  between_injective "/" "/update"

theorem status_injective : Function.Injective status :=
  between_injective "/" "/update/status"

end UpdateAgent.Topic
