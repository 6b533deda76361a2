import Runbook.KeyMap
import Runbook.Number.Decimal
import Runbook.Text.Blank

/-!
# Configuration

The settings of the engine.  Each has a default, and some can be set by environment variables;
a variable whose text does not read as it should is passed over.

* `Config.default` has the defaults for a project directory;
* `Config.ofEnvironment` lays the environment over them.
-/

namespace Runbook

/-- The settings of the engine.  Durations are in milliseconds. -/
structure Config where
  /-- The directory in which relative paths lie. -/
  projectDir : String
  /-- The first port that the callback listener tries. -/
  callbackPort : Nat := 7890
  /-- How many ports in a row it tries. -/
  portSpan : Nat := 100
  /-- How deep shared steps may call each other. -/
  maxSharedDepth : Nat := 10
  /-- The most characters that a value may have inline in a prompt. -/
  attachmentThreshold : Nat := 10000
  /-- How long a command may take. -/
  commandTimeout : Nat := 600000
  /-- How long to wait between two looks at a pane. -/
  pollInterval : Nat := 2000
  /-- How long a pane has to stay the same to count as idle. -/
  quietPeriod : Nat := 30000
  /-- The program that answers prompts. -/
  agentCommand : String := "claude"
  deriving DecidableEq, Repr

namespace Config

/-- The settings for a project when nothing else is said. -/
def default (projectDir : String) : Config := { projectDir }

/-- The natural number below `2 ^ bits` in an environment variable. -/
def setting? (env : KeyMap String) (bits : Nat) (name : String) : Option Nat :=
  (env.find? name).bind (fun raw => Decimal.readBits? bits (trim raw.toList))

/-- The settings for a project in an environment. -/
def ofEnvironment (env : KeyMap String) (projectDir : String) : Config :=
  let base := default projectDir
  { base with
    callbackPort := (setting? env 16 "CADENCE_CALLBACK_PORT").getD base.callbackPort
    maxSharedDepth := (setting? env 64 "CADENCE_MAX_SHARED_DEPTH").getD base.maxSharedDepth
    commandTimeout :=
      ((setting? env 64 "CADENCE_COMMAND_TIMEOUT_SECS").map (· * 1000)).getD base.commandTimeout
    pollInterval := (setting? env 64 "CADENCE_IDLE_POLL_MS").getD base.pollInterval
    quietPeriod :=
      ((setting? env 64 "CADENCE_IDLE_QUIET_SECS").map (· * 1000)).getD base.quietPeriod
    agentCommand :=
      match env.find? "CADENCE_AGENT_COMMAND" with
      | some command => if allBlank command then base.agentCommand else command
      | none => base.agentCommand }

/-- The settings with another port for the callback listener. -/
def withCallbackPort (config : Config) (port : Nat) : Config := { config with callbackPort := port }

end Config

end Runbook
