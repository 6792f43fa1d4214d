import UpdateAgent.Agent.Basic
import UpdateAgent.Text.Picked
import UpdateAgent.Url.Image

/-!
# The command

The agent as a command. Its calls are carried out on the files and the clock of this machine. There
is no network and no system bus here: every connection fails, as it does where no broker is up.
-/

namespace UpdateAgent

namespace Local

/-- An error by its number. Behind some calls the numbers are negative. -/
def numbered (code : UInt32) : FileError :=
  .os code.toInt32.toInt.natAbs

/-- An operating system's error as an error on files. -/
def fileError (error : IO.Error) : FileError :=
  match error with
  | .alreadyExists _ code _ => numbered code
  | .otherError code _ => numbered code
  | .resourceBusy code _ => numbered code
  | .resourceVanished code _ => numbered code
  | .unsupportedOperation code _ => numbered code
  | .hardwareFault code _ => numbered code
  | .unsatisfiedConstraints code _ => numbered code
  | .illegalOperation code _ => numbered code
  | .protocolError code _ => numbered code
  | .timeExpired code _ => numbered code
  | .interrupted _ code _ => numbered code
  | .noFileOrDirectory _ code _ => numbered code
  | .invalidArgument _ code _ => numbered code
  | .permissionDenied _ code _ => numbered code
  | .resourceExhausted _ code _ => numbered code
  | .inappropriateType _ code _ => numbered code
  | .noSuchThing _ code _ => numbered code
  | .unexpectedEof => .other "unexpected end of file"
  | .userError text => .other text

/-- Does a step on a file, unless its path cannot be said to the system. -/
def onFile {α : Type} (path : Path) (action : String → IO α) : IO (Except FileError α) :=
  if path.chars.contains '\x00' then return .error .nulInName
  else
    try
      return .ok (← action path.text)
    catch error => return .error (fileError error)

/-- Whether a path leads to a directory: only there is an entry that stands for the place itself,
and it cannot be made again. -/
def leadsToDirectory (path : Path) : IO Bool := do
  let made ← onFile (path.child ".") fun p => IO.FS.createDir p
  match made with
  | .error error => return error == .alreadyExists
  | .ok () => return true

/-- Carries out a step on the disk. What is written is handed to the system at once. -/
def carryOutFile : (call : DiskCall) → IO (DiskReply call)
  | .makeDirectory path => onFile path fun p => IO.FS.createDir p
  | .isDirectory path => leadsToDirectory path
  | .create path => onFile path fun p => IO.FS.writeBinFile p ByteArray.empty
  | .write path content => onFile path fun p =>
    IO.FS.withFile p .append fun file => file.write ⟨content.toArray⟩
  | .sync _ => return .ok ()
  | .rename source target => do
    match ← onFile target fun p => onFile source fun q => IO.FS.rename q p with
    | .error error => return .error error
    | .ok reply => return reply
  | .remove path => onFile path fun p => IO.FS.removeFile p
  | .syncDirectory path => do
    if ← leadsToDirectory path then return .ok () else return .error .notDirectory
  | .read path => onFile path fun p => do return (← IO.FS.readBinFile p).toList

/-- Waits. -/
def sleep (milliseconds : Nat) : IO Unit :=
  IO.sleep (UInt32.ofNat (min milliseconds 4294967295))

/-- What every call on a connection comes to, since there is none. -/
def noConnection : BusError := .connectionLost "not connected"

/-- Carries out a call of a session. -/
def carryOutSession : (call : WorldCall) → IO (WorldReply call)
  | .now => IO.monoMsNow
  | .pause milliseconds => sleep milliseconds
  | .connect _ => return .error (.connect "no network")
  | .subscribe .. => return .error noConnection
  | .unsubscribe .. => return .error noConnection
  | .publish .. => return .error noConnection
  | .receive _ => return .error noConnection
  | .receiveBy .. => return .error noConnection
  | .close _ => return ()
  | .start _ => return ()
  | .turn (.fetch url) _ => return .over (.error (ImageAddress.failure url))
  | .turn (.wait milliseconds) _ => do
    sleep milliseconds
    return .over ()
  | .load => return .ok none
  | .store _ => return .ok ()
  | .announce _ => return ()

/-- Carries out a call of a restart. -/
def carryOutRestart : (call : RestartCall) → IO (RestartReply call)
  | .pause milliseconds => sleep milliseconds
  | .openBus => return .error .unavailable
  | .bus _ => return .error .unavailable

/-- Carries out a call of the agent. -/
def carryOut : (call : PlatformCall) → IO (PlatformReply call)
  | .session call => carryOutSession call
  | .file call => carryOutFile call
  | .restart call => carryOutRestart call

/-- Repeats `body` until it finishes. -/
partial def repeatUntil {σ β : Type} (body : σ → IO (Next σ β)) (s : σ) : IO β := do
  match ← body s with
  | .finish b => return b
  | .again s => repeatUntil body s

/-- Runs a program of the agent. -/
def runProgram {α : Type} : Program Platform α → IO α
  | .done a => return a
  | .call c k => do runProgram (k (← carryOut c))
  | .loop body s k => do runProgram (k (← repeatUntil (fun s => runProgram (body s)) s))

/-- The variables that the agent looks at. -/
def variableNames : List String :=
  ["HOME", "XDG_CONFIG_HOME", "XDG_STATE_HOME"] ++ Command.Setting.all.map (·.environmentName)

/-- The environment, as far as the agent looks at it. -/
def environment : IO Environment := do
  let values ← variableNames.filterMapM fun name => do return (← IO.getEnv name).map (name, ·)
  return { values }

/-- A fresh suffix for staged files. -/
def freshSuffix : IO (List Char) := do
  let draws ← (List.replicate Path.suffixLength ()).mapM fun () => IO.rand 0 65535
  return (Text.picked Text.letters draws).getD []

end Local

end UpdateAgent

open UpdateAgent in
/-- Runs the agent once, and ends with the code that tells how it went. -/
def main (arguments : List String) : IO UInt32 := do
  let ending ← Local.runProgram
    (Agent.run (← Local.environment) (← Local.freshSuffix) arguments)
  if let some text := ending.text? then IO.eprintln text
  return UInt32.ofNat ending.exitCode
