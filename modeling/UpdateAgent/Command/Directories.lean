import UpdateAgent.Command.Options

/-!
# Directories

Where the agent keeps what it stores: the directories of the user that the environment names.
-/

namespace UpdateAgent.Directories

/-- The directory that a variable names, if it names one absolutely. -/
def named? (environment : Environment) (name : String) : Option Path :=
  ((environment.get? name).map Path.ofText).filter (·.isAbsolute)

/-- The home directory: the one that is set, or that of the account, or where the process is. -/
def home (environment : Environment) : Path :=
  let directory := ((environment.get? "HOME").filter (· ≠ "")).orElse fun _ =>
    environment.accountHome
  .ofText (directory.getD ".")

/-- Where an application keeps its configuration. -/
def config (environment : Environment) (application : String) : Path :=
  let base := (named? environment "XDG_CONFIG_HOME").getD ((home environment).child ".config")
  base.child application

/-- Where an application keeps its state. -/
def state (environment : Environment) (application : String) : Path :=
  let base := (named? environment "XDG_STATE_HOME").getD ((home environment).child ".local/state")
  base.child application

end UpdateAgent.Directories
