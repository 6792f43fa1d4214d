import UpdateAgent.Agent.Restart
import UpdateAgent.Agent.Settings
import UpdateAgent.Store.Credentials
import UpdateAgent.Text.Pem
import UpdateAgent.Url.Broker

/-!
# The agent

One run of the agent, from its arguments to the restart. It reads its settings, finds out the
hardware address, runs the cycle with the credentials on disk, and restarts, however the cycle
ended.
-/

namespace UpdateAgent

/-- What the agent asks of the machine that it runs on: what its sessions, its files and its restart
ask for. -/
inductive PlatformCall
  | session (call : WorldCall)
  | file (call : DiskCall)
  | restart (call : RestartCall)

/-- The reply to each call. -/
abbrev PlatformReply : PlatformCall → Type
  | .session call => WorldReply call
  | .file call => DiskReply call
  | .restart call => RestartReply call

/-- The surroundings of the agent. -/
abbrev Platform : Interface where
  Call := PlatformCall
  Reply := PlatformReply

namespace Agent

/-- Work on files as work of the agent. -/
def onFiles {α : Type} (p : Program Disk α) : Program Platform α :=
  p.through fun call => .request Platform (.file call)

/-- A restart as work of the agent. -/
def restarting {α : Type} (p : Program Restarting α) : Program Platform α :=
  p.through fun call => .request Platform (.restart call)

/-- How the agent carries out the calls of a session: credentials are loaded from and stored in a
document, everything else is up to the platform. -/
def carryOut (store : CredentialStore) (suffix : List Char) :
    (call : WorldCall) → Program Platform (WorldReply call)
  | .load => onFiles store.get
  | .store credentials => onFiles (store.put suffix credentials)
  | call => .request Platform (.session call)

/-- A cycle from its start to its end. -/
def wholeCycle (config : CycleConfig) : Program World CycleOutcome := do
  let cycle ← Cycle.load config
  let (outcome, _) ← cycle.run config
  return outcome

/-- A cycle with the credentials on disk. -/
def provision (config : CycleConfig) (store : CredentialStore) (suffix : List Char) :
    Program Platform CycleOutcome :=
  (wholeCycle config).through (carryOut store suffix)

/-- How a run of the agent ended. -/
inductive Ending
  | usage (error : Command.UsageError)
  | failed (message : String)
  | restarted
  deriving DecidableEq

/-- The exit code that tells how a run ended. -/
def Ending.exitCode : Ending → Nat
  | usage .help => 0
  | usage .version => 0
  | usage _ => 2
  | failed _ => 1
  | restarted => 0

/-- What is said about the end of a run, if it did not go well. -/
def Ending.text? : Ending → Option String
  | usage error => some error.message
  | failed message => some message
  | restarted => none

/-- The hardware address: the one that was given, or that of the network interface. -/
def findAddress (options : Options) : Program Disk (Except ReadError MacAddress) :=
  match options.macAddress with
  | some mac => return .ok mac
  | none => readAddress (addressPath options.interface)

/-- The store of the credentials. -/
def credentialStore (environment : Environment) (mac : MacAddress) : CredentialStore :=
  .ofDevice { root := Directories.config environment name } mac

/-- Runs the cycle and restarts. -/
def provisionAndRestart (environment : Environment) (suffix : List Char) (options : Options)
    (mac : MacAddress) : Program Platform Ending := do
  discard (provision (cycleConfig options mac) (credentialStore environment mac) suffix)
  match ← restarting (Restart.after options.restartDelay options.restartMode) with
  | .error error => return .failed error.message
  | .ok () => return .restarted

/-- Runs the agent with its settings. Nothing is provisioned if the broker's address or the
certificate for downloads is no good. -/
def runWith (environment : Environment) (suffix : List Char) (options : Options) :
    Program Platform Ending := do
  match ← onFiles (findAddress options) with
  | .error error => return .failed error.message
  | .ok mac =>
    match BrokerAddress.ofUri options.brokerUri with
    | .error error => return .failed error.message
    | .ok _ =>
      match ← onFiles (downloadConfig environment options) with
      | .error error => return .failed error.message
      | .ok config =>
        if config.certificate.all Pem.holdsCertificates then
          provisionAndRestart environment suffix options mac
        else return .failed "invalid CA certificate"

/-- Runs the agent. The suffix sets staged files apart. -/
def run (environment : Environment) (suffix : List Char) (arguments : List String) :
    Program Platform Ending :=
  match Options.read environment arguments with
  | .error error => return .usage error
  | .ok options => runWith environment suffix options

end Agent

end UpdateAgent
