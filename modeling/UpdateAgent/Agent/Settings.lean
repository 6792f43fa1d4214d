import UpdateAgent.Command.Directories
import UpdateAgent.Session.Cycle
import UpdateAgent.File.Writing

/-!
# From options to configurations

What the options of the agent mean for its cycle and for its downloads, and where the hardware
address comes from if it is not given.
-/

namespace UpdateAgent

namespace Agent

/-- The name of the directories in which the agent stores things. A device that looks for its
credentials elsewhere registers again. -/
def name : String := "otalink"

/-- The login for registration. Unless a client id is given it is made from the address, since a
broker disconnects a client when another one connects with its id. -/
def bootstrap (options : Options) (mac : MacAddress) : Login where
  clientId := options.bootstrapClientId.getD (name ++ "-" ++ mac.compact)
  username := options.bootstrapUsername
  password := options.bootstrapPassword

/-- The retry policy, which is the same for registration and updates. -/
def retry (options : Options) : RetryPolicy where
  maxAttempts := options.maxAttempts
  interval := options.retryInterval

/-- The configuration of the cycle. -/
def cycleConfig (options : Options) (mac : MacAddress) : CycleConfig where
  identity := { mac, version := options.firmwareVersion }
  registration := {
    bootstrap := bootstrap options mac
    replyTimeout := options.registrationTimeout
    retry := retry options }
  update := { retry := retry options }

/-- How images are fetched. -/
structure DownloadConfig where
  directory : Path
  timeout : Nat
  certificate : Option Bytes

/-- Where an image is staged. -/
def DownloadConfig.imagePath (config : DownloadConfig) : Path :=
  config.directory.child "firmware.bin"

/-- A file that is needed could not be read. -/
inductive ReadError
  | certificate (path : Path) (error : FileError)
  | address (path : Path) (error : FileError)
  | malformed (error : MacAddress.ParseError)
  deriving DecidableEq

/-- The error as it is shown. -/
def ReadError.message : ReadError → String
  | certificate path error =>
    "failed to read CA certificate " ++ path.text ++ ": " ++ error.message
  | address path error => "failed to read " ++ path.text ++ ": " ++ error.message
  | malformed error => error.message

/-- The directory in which images are staged. -/
def imageDirectory (environment : Environment) (options : Options) : Path :=
  options.firmwareDirectory.getD ((Directories.state environment name).child "firmware")

/-- The configuration of downloads, with the certificate that the options name. -/
def downloadConfig (environment : Environment) (options : Options) :
    Program Disk (Except ReadError DownloadConfig) := do
  let directory := imageDirectory environment options
  let timeout := options.downloadTimeout
  match options.certificate with
  | none => return .ok { directory, timeout, certificate := none }
  | some path =>
    match ← Disk.read path with
    | .error error => return .error (.certificate path error)
    | .ok content => return .ok { directory, timeout, certificate := some content }

/-- Reads a hardware address from a file. -/
def readAddress (path : Path) : Program Disk (Except ReadError MacAddress) := do
  match ← Disk.readText path with
  | .error error => return .error (.address path error)
  | .ok text =>
    match MacAddress.parse (String.ofList text) with
    | .error error => return .error (.malformed error)
    | .ok mac => return .ok mac

/-- Where the system shows the hardware address of a network interface. -/
def addressPath (interface : String) : Path :=
  ((Path.ofText "/sys/class/net").child interface).child "address"

end Agent

end UpdateAgent
