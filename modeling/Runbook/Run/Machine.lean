import Runbook.Agent
import Runbook.Config
import Runbook.Json.Reader
import Runbook.Project.Path
import Runbook.Run.Loops
import Runbook.Run.Tools
import Runbook.Workflow.Basic

/-!
# Running workflows

A run visits the steps of a list from the first to the last, unless a step jumps or asks something
of the loop around it.

* `visit` is what becomes of a step whose turn it is;
* `visitFrom` goes from visit to visit in a list;
* `act` does what an action says, and `stopsOf` makes a list of steps ready to be visited;
* `Workflow.run` runs a workflow and reports on it.
-/

namespace Runbook

/-- What holds during a whole run in a world. -/
structure Setting (W : Type) where
  /-- The configuration. -/
  config : Config
  /-- What holds for the steps that do not say otherwise. -/
  defaults : Defaults
  /-- The tools. -/
  tools : Tools W
  /-- How items are sorted. -/
  sorter : Sorter
  /-- The most visits of steps between entering a list of steps and leaving it. -/
  fuel : Nat

namespace Run

variable {W : Type}

/-- The variable for the message of the last failure that a run went past. -/
def lastErrorVar : String := "last_step_error"

/-- The variable for the inputs of a shared step. -/
def inputsVar : String := "inputs"

/-! ## Steps without steps inside -/

/-- The working directory of a step. -/
def workingDir (env : Setting W) (step : Step Unit) (vars : Variables) : String :=
  match step.cwd with
  | some cwd => Path.join env.config.projectDir (vars.interpolate cwd)
  | none => env.config.projectDir

/-- The model for the agent of a step. -/
def modelOf (env : Setting W) (step : Step Unit) (vars : Variables) : Option String :=
  ((step.model.or env.defaults.model).map vars.interpolate).filter (fun m => !allBlank m)

/-- The result of a command, or the failure of the step. -/
def commandOutput (step : Step Unit) (limit : Nat) :
    Except String Command.Outcome → Run W Value
  | .error detail => fail (.spawn detail)
  | .ok outcome =>
    if outcome.success then return .string (trimmed outcome.stdout)
    else fail (.stepFailed step.name (outcome.failureMessage limit))

/-- Runs a command in a pane. -/
def runSession (env : Setting W) (command cwd : String) : Run W Session.Outcome := do
  match ← reach (env.tools.session command cwd) with
  | some (.ok outcome) => return outcome
  | some (.error fault) => fail fault.failure
  | none => throw .outOfFuel

/-- Runs a shell command, in a pane if the step is a visible one. -/
def runBash (env : Setting W) (step : Step Unit) (template : String) (timeout : Option Nat) :
    Run W Value := do
  let vars ← currentVars
  let command := vars.interpolate template
  let cwd := workingDir env step vars
  if step.visible.getD env.defaults.visible then
    return .string (← runSession env command cwd).output
  let limit := (timeout.map (· * 1000)).getD env.config.commandTimeout
  commandOutput step limit (← reach (env.tools.shell command cwd limit))

/-- Runs an agent in a pane. -/
def runAgent (env : Setting W) (step : Step Unit) (template : String) : Run W Value := do
  let prompt ← attach env.tools.publish template
  let vars ← currentVars
  let command := Agent.commandLine env.config.agentCommand (modelOf env step vars)
    env.defaults.permissionMode prompt
  let outcome ← runSession env command (workingDir env step vars)
  report (.info
    s!"[Interpreter] Agent session for '{step.name}' ended by {outcome.completion.label}")
  return .string outcome.output

/-- Runs an agent that answers a prompt and ends. -/
def runPrompt (env : Setting W) (step : Step Unit) (template : String) : Run W Value := do
  let prompt ← attach env.tools.publish template
  let vars ← currentVars
  let arguments := Agent.arguments (modelOf env step vars) env.defaults.permissionMode prompt
  let limit := env.config.commandTimeout
  commandOutput step limit
    (← reach (env.tools.program env.config.agentCommand arguments (workingDir env step vars) limit))

/-- The value that a step binds, or why there is none. -/
def valueToSet (vars : Variables) (var : String) (value : Value) (parseJson : Bool) :
    Except String Value :=
  match vars.interpolateValue value, parseJson with
  | .string text, true =>
    (Json.parseText text).mapError (fun e => s!"'{var}' is not valid JSON: {e}")
  | v, _ => .ok v

/-- Binds a variable. -/
def runSet (step : Step Unit) (var : String) (value : Value) (parseJson : Bool) :
    Run W Value := do
  match valueToSet (← currentVars) var value parseJson with
  | .ok v =>
    bindVar var v
    return v
  | .error message => fail (.stepFailed step.name message)

/-- Writes a log line. -/
def runLog (path template : String) (level : LogLevel) : Run W Value := do
  let text := (← currentVars).interpolate template
  report ⟨level, s!"[Workflow] {path}: {text}"⟩
  return .string text

/-- Calls an adapter. -/
def runAdapter (env : Setting W) (step : Step Unit) (path name : String) (params : Value) :
    Run W Value := do
  let vars ← currentVars
  let call : AdapterCall := ⟨step.name, vars.interpolateValue params, workingDir env step vars⟩
  report (.debug s!"[Interpreter] {path} -> adapter '{name}'")
  let reply ← reach (env.tools.adapter name call vars)
  update (fun p => { p with vars := reply.vars })
  match reply.outcome with
  | .ok v => return v
  | .error message => fail (.stepFailed step.name message)

/-! ## Shared steps -/

/-- Puts the inputs of the caller back. -/
def restoreInputs (before : Option Value) (p : Progress) : Progress :=
  match before with
  | some v => p.bind inputsVar v
  | none => p.unbind inputsVar

/-- The bindings that a call makes of the outputs: all of them, or those it asks for. -/
def outputBindings (exposed : KeyMap Value) (asked : KeyMap String) : List (String × Value) :=
  if asked.size = 0 then exposed.entries
  else asked.entries.map (fun (var, name) => (var, (exposed.find? name).getD .null))

/-- Calls a shared step, given how its steps are run. -/
def runShared (step : Step Unit) (path : String) (sig : Signature) (inputs : KeyMap Value)
    (outputs : KeyMap String) (body : Run W Unit) : Run W Value := do
  let vars ← currentVars
  match sig.bindInputs inputs vars with
  | .error failure => fail (.stepFailed step.name failure.text)
  | .ok bound =>
    reportAll (sig.undeclaredNotes inputs)
    report (.info s!"[Interpreter] {path} -> shared '{sig.name}'")
    bindVar inputsVar (.ofMap bound)
    closing body (restoreInputs (vars.find? inputsVar))
    let exposed := sig.collectOutputs (← currentVars)
    update (fun p =>
      { p with vars := p.vars.insertAll (outputBindings exposed outputs) })
    return .ofMap exposed

/-! ## Visits -/

/-- The path of a step inside another. -/
def stepPath (scope name : String) : String := if scope.isEmpty then name else s!"{scope}/{name}"

/-- A step whose turn may come. -/
structure Stop (W : Type) where
  /-- Its name. -/
  name : String
  /-- Visits it, and tells whether it was not skipped. -/
  visit : (scope : String) → (index : Nat) → Run W Bool

/-- Whether a step is to be skipped. -/
def skips (step : Step Unit) : Run W Bool :=
  match step.condition with
  | some condition => return !(← holds condition)
  | none => return false

/-- Notes that a step succeeded. -/
def succeed (step : Step Unit) (path : String) (output : Value) : Run W Unit := do
  record (.success path output)
  match step.outputVar with
  | some var => bindVar var output
  | none => return

/-- Notes that a step failed, and halts unless the run goes past the failure. -/
def failAt (step : Step Unit) (path : String) (index : Nat) (failure : Failure) :
    Run W Unit := do
  if failure.isStepFailure && step.onError = .goOn then
    report (.warn s!"[Interpreter] {path} failed, continuing: {failure.text}")
    record (.failure path failure.message)
    bindVar lastErrorVar (.string failure.message)
  else
    emit (.turn path (.errored index))
    record (.failure path failure.text)
    fail failure

/-- Visits a step, given how it is done. -/
def visit (step : Step Unit) (action : (path : String) → (index : Nat) → Run W Value)
    (scope : String) (index : Nat) : Run W Bool := do
  let path := stepPath scope step.name
  update (fun p => { p with stepIndex := index })
  emit (.turn path (.ready index))
  if ← skips step then
    emit (.turn path (.skipped index))
    record (.skip path)
    return false
  emit (.turn path (.running index))
  match ← attempt (action path index) with
  | .ok output => succeed step path output
  | .error failure => failAt step path index failure
  return true

/-- The position that a visit leads to; none if it asked something of the loop. -/
def nextIndex (stops : List (Stop W)) (scope name : String) (index : Nat) :
    Run W (Option Nat) := do
  let p ← progress
  if p.signal ≠ .quiet then return none
  match p.jump with
  | none => return some (index + 1)
  | some target =>
    update (fun p => { p with jump := none })
    match stops.findIdx? (·.name == target) with
    | none => fail (.unknownJumpTarget name target)
    | some j =>
      report (.debug s!"[Interpreter] {stepPath scope name} jumps to '{target}' ({j})")
      return some j

/-- Visits the steps of a list from a position on. -/
def visitFrom (stops : List (Stop W)) (scope : String) : (fuel index : Nat) → Run W Unit
  | fuel, index =>
    match stops[index]? with
    | none => return
    | some stop =>
      match fuel with
      | 0 => throw .outOfFuel
      | fuel + 1 => do
        if ← stop.visit scope index then
          match ← nextIndex stops scope stop.name index with
          | some j => visitFrom stops scope fuel j
          | none => return
        else visitFrom stops scope fuel (index + 1)

mutual

/-- Does what an action says; `step` is all else about its step. -/
def act (env : Setting W) (step : Step Unit) : Action → (path : String) → (index : Nat) →
    Run W Value
  | .bash command timeout, _, _ => runBash env step command timeout
  | .agent text, _, _ => runAgent env step text
  | .prompt text, _, _ => runPrompt env step text
  | .set var value parseJson, _, _ => runSet step var value parseJson
  | .log message level, path, _ => runLog path message level
  | .goto target, _, _ => do
    update (fun p => { p with jump := some target })
    return .null
  | .leave, _, _ => do
    update (·.setSignal .leave)
    return .null
  | .next, _, _ => do
    update (·.setSignal .next)
    return .null
  | .foreach loop body, path, index =>
    foreachLoop env.sorter ⟨step.name, index, path⟩ loop
      (visitFrom (stopsOf env body) path env.fuel 0)
  | .whilst loop body, path, index =>
    whileLoop ⟨step.name, index, path⟩ loop (visitFrom (stopsOf env body) path env.fuel 0)
  | .range loop body, path, index =>
    rangeLoop ⟨step.name, index, path⟩ loop (visitFrom (stopsOf env body) path env.fuel 0)
  | .retry loop body, path, index =>
    retryLoop ⟨step.name, index, path⟩ loop (visitFrom (stopsOf env body) path env.fuel 0)
  | .shared ⟨_, signature, body, _⟩ inputs outputs, path, _ =>
    runShared step path signature inputs outputs (visitFrom (stopsOf env body) path env.fuel 0)
  | .adapter name params, path, _ => runAdapter env step path name params

/-- Makes a step ready to be visited. -/
def stopOf (env : Setting W) : Step Action → Stop W
  | ⟨name, condition, onError, outputVar, visible, cwd, model, action⟩ =>
    let step : Step Unit := ⟨name, condition, onError, outputVar, visible, cwd, model, ()⟩
    ⟨name, visit step (act env step action)⟩

/-- Makes steps ready to be visited. -/
def stopsOf (env : Setting W) : List (Step Action) → List (Stop W)
  | [] => []
  | step :: rest => stopOf env step :: stopsOf env rest

end

/-- Runs the steps of a list. -/
def block (env : Setting W) (steps : Block) (scope : String) : Run W Unit :=
  visitFrom (stopsOf env steps) scope env.fuel 0

end Run

namespace Workflow

/-- The start of a run, with variables laid over those of the workflow, the directory for long
values, and a world. -/
def start {W : Type} (w : Workflow) (config : Config) (overrides : List (String × Value))
    (directory : String) (world : W) : RunState W where
  progress := .start (w.vars.insertAll overrides)
  records := []
  events := [.note (.info
    s!"[Interpreter] Running workflow '{w.name}' ({w.body.length} steps)")]
  attachments := ⟨directory, config.attachmentThreshold, .empty⟩
  world := world

/-- The report on a run that came to its end. -/
def finished {W : Type} (w : Workflow) (s : RunState W) : Report where
  workflow := w.name
  records := s.records.reverse
  failure := none
  progress := { s.progress with completed := true }
  events := (.turn w.name .completed :: s.events).reverse

/-- The report on a run that was halted. -/
def halted {W : Type} (w : Workflow) (failure : Failure) (s : RunState W) : Report where
  workflow := w.name
  records := s.records.reverse
  failure := some failure
  progress := { s.progress with error := some failure.text }
  events := (.note (.error s!"[Interpreter] Workflow '{w.name}' halted: {failure.text}") ::
    s.events).reverse

/-- Runs a workflow; there is no report if the visits run out or sorting panics. -/
def run {W : Type} (w : Workflow) (env : Setting W) (overrides : List (String × Value))
    (directory : String) (world : W) : Option Report × W :=
  match Run.block { env with defaults := w.defaults } w.body ""
      (w.start env.config overrides directory world) with
  | (.ok (), s) => (some (w.finished s), s.world)
  | (.error (.failed failure), s) => (some (w.halted failure s), s.world)
  | (.error .outOfFuel, s) => (none, s.world)
  | (.error .panicked, s) => (none, s.world)

end Workflow

end Runbook
