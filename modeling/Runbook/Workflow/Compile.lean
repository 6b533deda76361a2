import Runbook.Shared.Library
import Runbook.Workflow.Basic

/-!
# Compiling workflows

Checks a definition and puts a shared step in place of every reference, so that nothing is left to
go wrong with the structure of a workflow once it runs.

* `checkNames` and `Compiler.checkStep` are the checks on one list of steps;
* `compileSteps` compiles a list of steps, given how calls of shared steps are compiled;
* `Compiler.call` compiles a call: it finds the shared step, refuses circles and chains that are too
  long, and compiles each shared step once;
* `Definition.compile` compiles a workflow.
-/

namespace Runbook

/-- What one compilation leaves for the next, also when it fails. -/
structure CompileState where
  /-- The shared steps that are ready, by their keys. -/
  cache : KeyMap (CompiledShared Action)
  /-- What was reported, the last line first. -/
  log : List LogLine

namespace CompileState

/-- Before the first compilation. -/
def empty : CompileState := ⟨.empty, []⟩

/-- Reports a line. -/
def report (line : LogLine) (s : CompileState) : CompileState := { s with log := line :: s.log }

/-- Keeps a shared step that is ready. -/
def keep (callee : CompiledShared Action) (s : CompileState) : CompileState :=
  { s with cache := s.cache.insert callee.key callee }.report
    (.debug s!"[Shared] Cached '{callee.signature.name}' ({callee.key}, height {callee.height})")

end CompileState

/-- A part of a compilation. -/
abbrev Compile (α : Type) := ExceptT Failure (StateM CompileState) α

/-- What a compilation has to know. -/
structure Compiler where
  /-- The names of the adapters that there are. -/
  adapters : List String
  /-- The shared steps that there are. -/
  library : Library
  /-- How deep shared steps may call each other. -/
  maxDepth : Nat

/-- Compiles the call of a step in a file of a directory. -/
abbrev CallCompiler := (step : String) → SharedCall → (origin : String) → Compile Action

/-! ## Checks on one list -/

/-- Checks that the names of the steps from position `i` on are not blank, and neither among those
seen nor twice there. -/
def checkNames (scope : String) : (seen : List String) → (i : Nat) → List String →
    Except Failure Unit
  | _, _, [] => .ok ()
  | seen, i, name :: rest =>
    if allBlank name then .error (.invalidStep s!"{scope}[{i}]" "step name must not be empty")
    else if seen.contains name then .error (.duplicateStep scope name)
    else checkNames scope (name :: seen) (i + 1) rest

/-- The names of steps. -/
def stepNames {T : Type} (steps : List (Step T)) : List String := steps.map (·.name)

/-- What is wrong with the parameters of a tool by themselves. -/
def Tool.invalid? : Tool → Option String
  | .set var _ _ => if allBlank var then some "set requires a variable name" else none
  | .whilst loop _ =>
    if loop.maxPasses = 0 then some "while max_iterations must be greater than 0" else none
  | .range loop _ => if loop.stride = 0 then some "range step must not be 0" else none
  | .retry loop _ =>
    if loop.maxAttempts = 0 then some "retry max_attempts must be greater than 0" else none
  | _ => none

/-- Checks what a step of a list with these names does, all but what lies inside its loop. -/
def Compiler.checkStep (c : Compiler) (names : List String) (inLoop : Bool) (step : String)
    (tool : Tool) : Except Failure Unit :=
  match tool with
  | .goto target =>
    if names.contains target then .ok () else .error (.unknownJumpTarget step target)
  | .leave | .next => if inLoop then .ok () else .error (.signalOutsideLoop step tool.kind)
  | .adapter name _ =>
    if c.adapters.contains name then .ok () else .error (.unknownAdapter step name)
  | tool =>
    match tool.invalid? with
    | some reason => .error (.invalidStep step reason)
    | none => .ok ()

/-! ## Lists of steps -/

/-- Compiles a list whose names have been checked by the given means. -/
def checkedBlock (scope : String) (steps : List StepDefinition) (block : Compile Block) :
    Compile Block := do
  checkNames scope [] 0 (stepNames steps)
  block

mutual

/-- Compiles what a step does. -/
def compileTool (c : Compiler) (call : CallCompiler) (scope origin step : String) :
    Tool → Compile Action
  | .bash command timeout => return .bash command timeout
  | .agent text => return .agent text
  | .prompt text => return .prompt text
  | .set var value parseJson => return .set var value parseJson
  | .log message level => return .log message level
  | .goto target => return .goto target
  | .leave => return .leave
  | .next => return .next
  | .foreach loop steps =>
    .foreach loop <$> checkedBlock s!"{scope}/{step}" steps
      (compileSteps c call s!"{scope}/{step}" origin true (stepNames steps) steps)
  | .whilst loop steps =>
    .whilst loop <$> checkedBlock s!"{scope}/{step}" steps
      (compileSteps c call s!"{scope}/{step}" origin true (stepNames steps) steps)
  | .range loop steps =>
    .range loop <$> checkedBlock s!"{scope}/{step}" steps
      (compileSteps c call s!"{scope}/{step}" origin true (stepNames steps) steps)
  | .retry loop steps =>
    .retry loop <$> checkedBlock s!"{scope}/{step}" steps
      (compileSteps c call s!"{scope}/{step}" origin true (stepNames steps) steps)
  | .shared sharedCall => call step sharedCall origin
  | .adapter name params => return .adapter name params

/-- Compiles a step of a list with these names. -/
def compileStep (c : Compiler) (call : CallCompiler) (scope origin : String) (inLoop : Bool)
    (names : List String) : Step Tool → Compile (Step Action)
  | ⟨name, condition, onError, outputVar, visible, cwd, model, tool⟩ => do
    c.checkStep names inLoop name tool
    let action ← compileTool c call scope origin name tool
    return ⟨name, condition, onError, outputVar, visible, cwd, model, action⟩

/-- Compiles steps of a list with these names, in order. -/
def compileSteps (c : Compiler) (call : CallCompiler) (scope origin : String) (inLoop : Bool)
    (names : List String) : List (Step Tool) → Compile Block
  | [] => return []
  | step :: rest => do
    let first ← compileStep c call scope origin inLoop names step
    let more ← compileSteps c call scope origin inLoop names rest
    return first :: more

end

/-- Compiles a list of steps that is not inside a loop. -/
def compileBlock (c : Compiler) (call : CallCompiler) (scope origin : String)
    (steps : List StepDefinition) : Compile Block :=
  checkedBlock scope steps (compileSteps c call scope origin false (stepNames steps) steps)

/-! ## Shared steps -/

namespace Compiler

/-- Compiles a shared step and keeps it, given how the calls in it are compiled. -/
def sharedStep (c : Compiler) (call : CallCompiler) (reference : Reference) :
    Compile (CompiledShared Action) := do
  let d ← c.library.load reference
  let body ← compileBlock c call s!"shared '{d.name}'" (reference.origin c.library.projectDir)
    d.steps
  let callee : CompiledShared Action :=
    ⟨reference.key, ⟨d.name, d.inputs, d.outputs⟩, body, Block.sharedHeight body + 1⟩
  modify (CompileState.keep callee)
  return callee

/-- Refuses a chain of calls that is too long. -/
def checkDepth (c : Compiler) (depth : Nat) : Except Failure Unit :=
  if c.maxDepth < depth then .error (.depthExceeded depth c.maxDepth) else .ok ()

/-- The shared step of a reference, below `depth` others; one that is ready is taken as it is. -/
def callee (c : Compiler) (call : CallCompiler) (depth : Nat) (reference : Reference) :
    Compile (CompiledShared Action) := do
  match (← get).cache.find? reference.key with
  | some callee =>
    c.checkDepth (depth + callee.height)
    return callee
  | none => c.sharedStep call reference

/-- Refuses a shared step that is already being compiled; `stack` has the keys of those that are,
the outermost first. -/
def checkCircle (stack : List String) (key : String) : Except Failure Unit :=
  if stack.contains key then
    .error (.circularReference (stack.dropWhile (· != key) ++ [key]))
  else .ok ()

/-- Compiles a call inside the shared steps on the stack, below which `budget` more may lie. -/
def call (c : Compiler) : (budget : Nat) → (stack : List String) → CallCompiler
  | budget, stack, step, sharedCall, origin => do
    let reference ← c.library.resolve sharedCall.uses origin
    checkCircle stack reference.key
    match budget with
    | 0 => throw (.depthExceeded (stack.length + 1) c.maxDepth)
    | budget + 1 =>
      let callee ← c.callee (c.call budget (stack ++ [reference.key])) stack.length reference
      callee.signature.checkCall step sharedCall
      return .shared callee sharedCall.inputs sharedCall.outputs

end Compiler

/-- The directory in which the references of a workflow begin. -/
def workflowOrigin (source : Option String) (projectDir : String) : String :=
  (source.bind Path.parent?).getD projectDir

/-- Compiles a workflow, which may come from a file. -/
def Definition.compile (d : Definition) (source : Option String) (c : Compiler) :
    Compile Workflow := do
  let origin := workflowOrigin source c.library.projectDir
  let body ← compileBlock c (c.call c.maxDepth []) s!"workflow '{d.name}'" origin d.steps
  modify (CompileState.report (.debug
    s!"[Compile] Workflow '{d.name}': {body.length} steps ({Block.stepCount body} total)"))
  return ⟨d.name, d.description, source, d.vars, d.defaults, body⟩

end Runbook
