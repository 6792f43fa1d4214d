import UpdateAgent.Command.Setting

/-!
# Options

The settings of the agent as a whole: from the command line, then from the environment for what the
command line leaves open, then by default. Arguments are read from left to right. An option without
an attached value takes the next argument, unless that looks like an option; its value is read when
the next option is met or the arguments end.
-/

namespace UpdateAgent

/-- What a process is started in: its variables with their values, and the home directory that the
system keeps for its account. -/
structure Environment where
  values : List (String × String) := []
  accountHome : Option String := none

/-- The value of a variable. -/
def Environment.get? (environment : Environment) (name : String) : Option String :=
  environment.values.lookup name

/-- The settings of the agent. Times are in milliseconds. -/
structure Options where
  brokerUri : String
  bootstrapClientId : Option String
  bootstrapUsername : Option String
  bootstrapPassword : Option String
  macAddress : Option MacAddress
  interface : String
  firmwareVersion : String
  keepAlive : Nat
  registrationTimeout : Nat
  maxAttempts : UInt32
  retryInterval : Nat
  downloadTimeout : Nat
  certificate : Option Path
  firmwareDirectory : Option Path
  restartDelay : Nat
  restartMode : RestartMode

namespace Command

/-- What the arguments read so far give: the settings that were given, their values, and an option
that still waits to be taken in, with its value if there is one. -/
structure Progress where
  draft : Draft := {}
  given : List Setting := []
  pending : Option (Setting × Option String) := none

namespace Progress

/-- Takes in the value of a setting, which must not have been given before. -/
def store (p : Progress) (setting : Setting) (value : String) : Except UsageError Progress :=
  if setting ∈ p.given then .error (.repeated setting)
  else do
    let draft ← p.draft.set setting value
    return { p with draft, given := setting :: p.given }

/-- Takes in the option that waits. -/
def settle (p : Progress) : Except UsageError Progress :=
  match p.pending with
  | none => .ok p
  | some (setting, none) => .error (.noValue setting)
  | some (setting, some value) => { p with pending := none }.store setting value

/-- Ends with something else than settings, once the option that waits is taken in. -/
def leave (p : Progress) (reason : UsageError) : Except UsageError Progress :=
  match p.settle with
  | .error error => .error error
  | .ok _ => .error reason

/-- Takes an option with its attached value, if it has one. -/
def longOption (p : Progress) (name : String) (value : Option String) :
    Except UsageError Progress :=
  let special? : Option UsageError := match name with
    | "help" => some .help
    | "version" => some .version
    | _ => none
  match special?, Setting.ofOption? name, value with
  | some reason, _, none => p.leave reason
  | some _, _, some _ => .error (.attached name)
  | none, some setting, some value => do (← p.settle).store setting value
  | none, some setting, none => do
    return { ← p.settle with pending := some (setting, none) }
  | none, none, _ => .error (.unknown ("--" ++ name))

/-- Takes an option of one letter. -/
def shortOption (p : Progress) (letters : List Char) : Except UsageError Progress :=
  match letters with
  | 'h' :: _ => p.leave .help
  | 'V' :: _ => p.leave .version
  | _ => .error (.unknown (String.ofList ('-' :: letters)))

/-- Takes an argument that does not look like an option. -/
def plain (p : Progress) (argument : String) : Except UsageError Progress :=
  match p.pending with
  | some (setting, none) => .ok { p with pending := some (setting, some argument) }
  | _ => .error (.unknown argument)

/-- Takes an argument. -/
def take (p : Progress) (argument : String) : Except UsageError Progress :=
  match argument.toList with
  | '-' :: '-' :: rest =>
    let name := String.ofList (rest.takeWhile (· ≠ '='))
    match rest.dropWhile (· ≠ '=') with
    | [] => p.longOption name none
    | _ :: value => p.longOption name (some (String.ofList value))
  | '-' :: c :: rest => p.shortOption (c :: rest)
  | _ => p.plain argument

/-- Takes all arguments. After two hyphens alone none may follow. -/
def takeAll (p : Progress) : List String → Except UsageError Progress
  | [] => p.settle
  | ["--"] => p.settle
  | argument :: rest =>
    if argument = "--" then .error (.unknown (rest.headD ""))
    else do (← p.take argument).takeAll rest

/-- Takes a setting from the environment, unless it was given. -/
def fromEnvironment (environment : Environment) (p : Progress) (setting : Setting) :
    Except UsageError Progress :=
  if setting ∈ p.given then .ok p
  else
    match environment.get? setting.environmentName with
    | none => .ok p
    | some value => p.store setting value

end Progress

/-- The settings of a draft, with defaults for those that are open. A password needs a user. -/
def Draft.finish (d : Draft) : Except UsageError Options :=
  match d.brokerUri with
  | none => .error (.required .brokerUri)
  | some brokerUri =>
    if d.bootstrapPassword.isSome ∧ d.bootstrapUsername.isNone then
      .error (.required .bootstrapUsername)
    else
      .ok {
        brokerUri
        bootstrapClientId := d.bootstrapClientId
        bootstrapUsername := d.bootstrapUsername
        bootstrapPassword := d.bootstrapPassword
        macAddress := d.macAddress
        interface := d.interface.getD "eth0"
        firmwareVersion := d.firmwareVersion.getD ownVersion
        keepAlive := d.keepAlive.getD 5000
        registrationTimeout := d.registrationTimeout.getD 30000
        maxAttempts := d.maxAttempts.getD 5
        retryInterval := d.retryInterval.getD 5000
        downloadTimeout := d.downloadTimeout.getD 600000
        certificate := d.certificate
        firmwareDirectory := d.firmwareDirectory
        restartDelay := d.restartDelay.getD 3000
        restartMode := d.restartMode.getD .reboot }

end Command

/-- Reads the settings from the arguments and the environment. -/
def Options.read (environment : Environment) (arguments : List String) :
    Except Command.UsageError Options := do
  let progress ← ({} : Command.Progress).takeAll arguments
  let progress ← Command.Setting.all.foldlM (Command.Progress.fromEnvironment environment) progress
  progress.draft.finish

end UpdateAgent
