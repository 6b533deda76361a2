import Runbook.Definition.Basic

/-!
# Built-in shared steps

The shared steps that every project has.

* `shellCapture` runs a command and exposes what it wrote;
* `retryCommand` runs a command up to three times;
* `announce` writes a log line at the level it is asked for.
-/

namespace Runbook.Builtin

/-- A step that says nothing but what it does. -/
def plainStep (name : String) (tool : Tool) : StepDefinition :=
  ⟨name, none, .stop, none, none, none, none, tool⟩

/-- An input that has to be given. -/
def requiredInput (name : String) (schema : Option InputSchema) : InputSpec :=
  ⟨name, true, none, schema⟩

/-- An input with a default. -/
def defaultInput (name default : String) (schema : Option InputSchema) : InputSpec :=
  ⟨name, false, some (.string default), schema⟩

/-- The schema of a text. -/
def textSchema : InputSchema := { type := some .string }

/-- The template of an input. -/
def inputTemplate (name : String) : String := "\x7binputs." ++ name ++ "\x7d"

/-- Runs a shell command and exposes what it wrote. -/
def shellCapture : SharedDefinition where
  name := "shell-capture"
  description := some "Run a shell command and expose its trimmed stdout"
  inputs := [requiredInput "command" (some textSchema), defaultInput "cwd" "." none]
  outputs := .ofList [("output", "captured")]
  steps :=
    [{ plainStep "run" (.bash (inputTemplate "command") none) with
        outputVar := some "captured"
        cwd := some (inputTemplate "cwd") }]

/-- The loop of `retryCommand`. -/
def threeAttempts : RetryLoop where
  maxAttempts := 3
  delay := 1000
  stopWhen := none
  attemptVar := "attempt"
  onExhausted := .goOn

/-- Runs a shell command up to three times. -/
def retryCommand : SharedDefinition where
  name := "retry-command"
  description := some "Run a shell command up to three times, one second apart"
  inputs := [requiredInput "command" (some textSchema)]
  outputs := .ofList [("output", "retry_output"), ("result", "retry_result")]
  steps :=
    [{ plainStep "attempts" (.retry threeAttempts
        [{ plainStep "run" (.bash (inputTemplate "command") none) with
            outputVar := some "retry_output" }]) with
        outputVar := some "retry_result" }]

/-- The step of `announce` for a level. -/
def announceAt (level : LogLevel) : StepDefinition :=
  { plainStep level.name (.log (inputTemplate "message") level) with
    condition := some (inputTemplate "level" ++ " == " ++ level.name) }

/-- Writes a log line at the level it is asked for. -/
def announce : SharedDefinition where
  name := "announce"
  description := some "Log a message at the requested level"
  inputs :=
    [requiredInput "message" none,
      defaultInput "level" "info" (some
        { type := some .string,
          allowed := some (LogLevel.all.map (fun level => .string level.name)) })]
  outputs := .ofList [("message", "announced")]
  steps := [LogLevel.info, .debug, .warn, .error].map announceAt ++
    [plainStep "remember" (.set "announced" (.string (inputTemplate "message")) false)]

/-- The built-in shared steps. -/
def all : List SharedDefinition := [shellCapture, retryCommand, announce]

/-- The built-in shared step of a name. -/
def find? (name : String) : Option SharedDefinition := all.find? (·.name == name)

end Runbook.Builtin
