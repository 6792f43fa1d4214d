/-!
# Topics

Devices register on one topic that all of them share. Each registered device then has a topic for
update triggers and one for its status reports.
-/

namespace UpdateAgent.Topic

/-- Where registration requests and replies are published. -/
def register : String := "/register"

/-- Where the update triggers of a device are published. -/
def update (deviceId : String) : String :=
  "/" ++ deviceId ++ "/update"

/-- Where a device publishes its status reports. -/
def status (deviceId : String) : String :=
  "/" ++ deviceId ++ "/update/status"

end UpdateAgent.Topic
