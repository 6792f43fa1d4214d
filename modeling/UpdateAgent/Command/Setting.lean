import UpdateAgent.Text.Integer
import UpdateAgent.Mac
import UpdateAgent.File.Path

/-!
# Settings

What the agent can be told on its command line or by environment variables, and how the value of
each setting is read.
-/

namespace UpdateAgent

/-- How a device restarts once it is done. -/
inductive RestartMode
  | reboot
  | exit
  deriving DecidableEq

/-- The mode as it is written. -/
def RestartMode.text : RestartMode → String
  | reboot => "reboot"
  | exit => "exit"

namespace Command

/-- A setting. -/
inductive Setting
  | brokerUri
  | bootstrapClientId
  | bootstrapUsername
  | bootstrapPassword
  | macAddress
  | interface
  | firmwareVersion
  | keepAlive
  | registrationTimeout
  | maxAttempts
  | retryInterval
  | downloadTimeout
  | certificate
  | firmwareDirectory
  | restartDelay
  | restartMode
  deriving DecidableEq

namespace Setting

/-- All settings, in the order in which environment variables are looked at. -/
def all : List Setting := [
  brokerUri, bootstrapClientId, bootstrapUsername, bootstrapPassword, macAddress, interface,
  firmwareVersion, keepAlive, registrationTimeout, maxAttempts, retryInterval, downloadTimeout,
  certificate, firmwareDirectory, restartDelay, restartMode]

/-- The name of the option, which follows two hyphens. -/
def option : Setting → String
  | brokerUri => "broker-uri"
  | bootstrapClientId => "bootstrap-client-id"
  | bootstrapUsername => "bootstrap-username"
  | bootstrapPassword => "bootstrap-password"
  | macAddress => "mac-address"
  | interface => "interface"
  | firmwareVersion => "firmware-version"
  | keepAlive => "keep-alive-ms"
  | registrationTimeout => "registration-timeout-ms"
  | maxAttempts => "ota-max-attempts"
  | retryInterval => "ota-retry-interval-ms"
  | downloadTimeout => "download-timeout-ms"
  | certificate => "ca-cert"
  | firmwareDirectory => "firmware-dir"
  | restartDelay => "restart-delay-ms"
  | restartMode => "restart-mode"

/-- The environment variable: the name of the option in upper case, with underscores. -/
def environmentName (setting : Setting) : String :=
  let upper (c : Char) : Char := if c = '-' then '_' else c.toUpper
  "OTALINK_" ++ String.ofList (setting.option.toList.map upper)

/-- The setting with an option of this name. -/
def ofOption? (name : String) : Option Setting :=
  all.find? (·.option = name)

end Setting

/-- Why a value is not taken. -/
inductive ValueError
  | mac (error : MacAddress.ParseError)
  | integer (error : IntegerError)
  | outOfRange (value : Int)
  deriving DecidableEq

/-- The error as it is shown. -/
def ValueError.message : ValueError → String
  | mac error => error.message
  | integer error => error.message
  | outOfRange value => toString value ++ " is not in 1..=4294967295"

/-- Why a command line is not taken. Asking for help or for the version counts as well. -/
inductive UsageError
  | help
  | version
  | unknown (argument : String)
  | attached (option : String)
  | noValue (setting : Setting)
  | invalid (setting : Setting) (value : String)
  | repeated (setting : Setting)
  | value (setting : Setting) (error : ValueError)
  | required (setting : Setting)
  deriving DecidableEq

/-- The name of an option as it is written. -/
def Setting.shown (setting : Setting) : String :=
  "--" ++ setting.option

/-- The version of the agent. -/
def ownVersion : String := "0.1.0"

/-- What is said about the command line. -/
def UsageError.message : UsageError → String
  | help => "options: " ++ " ".intercalate (Setting.all.map (·.shown))
  | version => ownVersion
  | unknown argument => "unexpected argument: " ++ argument
  | attached option => "--" ++ option ++ " takes no value"
  | noValue setting => setting.shown ++ " needs a value"
  | invalid setting text => setting.shown ++ " cannot be " ++ text
  | repeated setting => setting.shown ++ " was given twice"
  | value setting error => setting.shown ++ ": " ++ error.message
  | required setting => setting.shown ++ " is missing"

/-- The settings read so far. -/
structure Draft where
  brokerUri : Option String := none
  bootstrapClientId : Option String := none
  bootstrapUsername : Option String := none
  bootstrapPassword : Option String := none
  macAddress : Option MacAddress := none
  interface : Option String := none
  firmwareVersion : Option String := none
  keepAlive : Option Nat := none
  registrationTimeout : Option Nat := none
  maxAttempts : Option UInt32 := none
  retryInterval : Option Nat := none
  downloadTimeout : Option Nat := none
  certificate : Option Path := none
  firmwareDirectory : Option Path := none
  restartDelay : Option Nat := none
  restartMode : Option RestartMode := none

/-- Reads milliseconds. -/
def milliseconds (setting : Setting) (value : String) : Except UsageError Nat :=
  match Integer.readNatural (Nat.pow 2 64 - 1) value.toList with
  | .ok n => .ok n
  | .error error => .error (.value setting (.integer error))

/-- Reads a number of attempts, at least one. -/
def attempts (setting : Setting) (value : String) : Except UsageError UInt32 :=
  match Integer.readSigned (Nat.pow 2 63 - 1) value.toList with
  | .error error => .error (.value setting (.integer error))
  | .ok n =>
    if 1 ≤ n ∧ n ≤ 4294967295 then .ok (UInt32.ofNat n.toNat)
    else .error (.value setting (.outOfRange n))

/-- Reads a path, which may not be empty. -/
def path (setting : Setting) (value : String) : Except UsageError Path :=
  if value = "" then .error (.noValue setting) else .ok (.ofText value)

/-- Reads a hardware address. -/
def address (setting : Setting) (value : String) : Except UsageError MacAddress :=
  match MacAddress.parse value with
  | .ok mac => .ok mac
  | .error error => .error (.value setting (.mac error))

/-- Reads a restart mode. -/
def mode (setting : Setting) (value : String) : Except UsageError RestartMode :=
  if value = RestartMode.reboot.text then .ok .reboot
  else if value = RestartMode.exit.text then .ok .exit
  else .error (.invalid setting value)

/-- Takes the value of a setting. -/
def Draft.set (d : Draft) (setting : Setting) (value : String) : Except UsageError Draft :=
  match setting with
  | .brokerUri => return { d with brokerUri := some value }
  | .bootstrapClientId => return { d with bootstrapClientId := some value }
  | .bootstrapUsername => return { d with bootstrapUsername := some value }
  | .bootstrapPassword => return { d with bootstrapPassword := some value }
  | .macAddress => return { d with macAddress := some (← address setting value) }
  | .interface => return { d with interface := some value }
  | .firmwareVersion => return { d with firmwareVersion := some value }
  | .keepAlive => return { d with keepAlive := some (← milliseconds setting value) }
  | .registrationTimeout =>
    return { d with registrationTimeout := some (← milliseconds setting value) }
  | .maxAttempts => return { d with maxAttempts := some (← attempts setting value) }
  | .retryInterval => return { d with retryInterval := some (← milliseconds setting value) }
  | .downloadTimeout => return { d with downloadTimeout := some (← milliseconds setting value) }
  | .certificate => return { d with certificate := some (← path setting value) }
  | .firmwareDirectory => return { d with firmwareDirectory := some (← path setting value) }
  | .restartDelay => return { d with restartDelay := some (← milliseconds setting value) }
  | .restartMode => return { d with restartMode := some (← mode setting value) }

end Command

end UpdateAgent
