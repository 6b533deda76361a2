import Runbook.Shell.Quote
import Runbook.Text.Blank

/-!
# Calling agents

How an agent program is called.

* `Agent.arguments` are those of an agent that answers a prompt and ends;
* `Agent.commandLine` is the shell command of an agent in a pane, each word quoted.
-/

namespace Runbook.Agent

/-- The mode that lets an agent do anything. -/
def bypassMode : String := "bypassPermissions"

/-- The arguments that say what an agent is permitted to do. -/
def permissionArguments (mode : Option String) : List String :=
  match mode.map trimmed with
  | none => []
  | some mode =>
    if mode.isEmpty then []
    else if mode = bypassMode then ["--dangerously-skip-permissions"]
    else ["--permission-mode", mode]

/-- The arguments that choose a model. -/
def modelArguments (model : Option String) : List String :=
  match model with
  | some model => ["--model", model]
  | none => []

/-- The arguments of an agent that answers a prompt and ends. -/
def arguments (model mode : Option String) (prompt : String) : List String :=
  ["-p", prompt] ++ modelArguments model ++ permissionArguments mode

/-- The words of the command of an agent in a pane. -/
def words (program : String) (model mode : Option String) (prompt : String) : List String :=
  program :: permissionArguments mode ++ modelArguments model ++ [prompt]

/-- The shell command of an agent in a pane. -/
def commandLine (program : String) (model mode : Option String) (prompt : String) : String :=
  " ".intercalate ((words program model mode prompt).map Shell.quote)

end Runbook.Agent
