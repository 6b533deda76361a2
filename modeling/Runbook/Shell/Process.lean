import Runbook.Command.Outcome
import Runbook.Shell.Evaluation

/-!
# Processes

Programs with a directory, an environment and a limit of time, among files.

* `spawn` runs a program and waits for it, unless it cannot start or takes too long;
* `spawnShell` runs a shell command.
-/

namespace Runbook.Shell

/-- How a program is started. -/
structure Start where
  /-- The program: a name, or a path with slashes. -/
  program : String
  /-- Its arguments. -/
  args : List String
  /-- Its working directory. -/
  cwd : String
  /-- The variables to add to its environment. -/
  env : List (String × String)
  /-- How many milliseconds it may take. -/
  limit : Nat

/-- How deep the parts of scripts may lie. -/
def evaluationDepth : Nat := 20000

/-- The environment that programs are started in. -/
def baseEnv : List (String × String) :=
  [("PATH", "/usr/local/bin:/usr/bin:/bin"), ("HOME", "/root")]

/-- The state in which a program begins. -/
def startState (start : Start) (files : FileSystem) : ShellState where
  machine := ⟨files, [], [[], []], 0, 0⟩
  name := "sh"
  args := []
  vars := KeyMap.ofList (baseEnv ++ [("PWD", FileSystem.placeText files.workingDir),
    (ShellState.cursorName, "1")] ++ start.env)
  exported := KeyMap.ofList ((baseEnv ++ [("PWD", "")] ++ start.env).map (fun (n, _) => (n, ())))
  part := none
  fixed := .empty
  outer := none
  functions := .empty
  status := 0
  putInStatus := none
  stopOnFailure := false
  refuseUnset := false
  traced := false
  plainPatterns := false
  traps := []
  outside := none
  arrived := []
  cursor := .start
  lasting := []
  jobs := []
  processId := 4242
  calls := 0
  loops := 0
  killed := none
  deadline := start.limit
  script := []

/-- The descriptors of a program: nothing to read, and two places to write. -/
def startDescriptors : Descriptors := [(0, .nothing), (1, .output 0), (2, .output 1)]

/-- Whether a text has a character that ends texts for the system. -/
def hasNull (s : String) : Bool := s.toList.contains '\x00'

/-- What a program turns out to be. -/
inductive Image where
  /-- A utility. -/
  | utility (run : Utility)
  /-- A script. -/
  | script (launch : Launch)
  /-- The shell, with arguments that it refuses. -/
  | refused (text : String)

/-- What a program is. -/
def findImage (files : FileSystem) (program : String) (args : List String) :
    Except PathFault Image :=
  if shellNames.contains program then
    match Launch.ofArgs files [] program args with
    | .ok launch => .ok (.script launch)
    | .error text => .ok (.refused s!"{program}: 0: {text}")
  else match Utility.find? program with
    | some utility => .ok (.utility utility)
    | none =>
      if !program.toList.contains '/' then .error .notFound
      else do
        let place ← files.locate program
        match files.get? place with
        | some (.file content true) =>
          if namesShell content then
            return .script ⟨[], program, args, Utf8.decodeLossy content⟩
          else throw .notFound
        | some _ => throw .denied
        | none => throw .notFound

/-- The state when a program has ended. -/
def runImage (start : Start) (image : Image) (s : ShellState) : ShellState :=
  match image with
  | .utility utility =>
    let (status, m) := utility ⟨start.program, start.args, startDescriptors, s.env⟩ s.machine
    { s with machine := m, status }
  | .script launch =>
    let s := { s with name := launch.name, args := launch.args, script := launch.text.toList }
    runWhole (runCommand evaluationDepth) startDescriptors
      (launch.ways.foldl (fun s letter => Builtin.setWay true letter s) s)
  | .refused text =>
    { s.onMachine (·.complain startDescriptors text) with status := 2 }

/-- The outcome of a program whose state at the end is given. -/
def outcomeOf (s : ShellState) : Command.Outcome :=
  if s.deadline ≤ max s.machine.clock s.machine.lingering then .timeout
  else
    { stdout := Utf8.decodeLossy (s.machine.collected 0)
      stderr := Utf8.decodeLossy (s.machine.collected 1)
      exitCode := if s.killed.isSome then none else some s.status
      timedOut := false }

/-- Runs a program and waits for it, or tells why it cannot start.  One that has no time at all does
nothing. -/
def spawn (start : Start) (files : FileSystem) : Except String (Command.Outcome × FileSystem) :=
  if (start.program :: start.cwd :: start.args).any hasNull ||
      start.env.any (fun (n, v) => hasNull n || hasNull v) then
    .error "nul byte found in provided data"
  else
    let found := do
      let inside ← files.inside start.cwd
      return (inside, ← findImage inside start.program start.args)
    match found with
    | .error fault => .error fault.text
    | .ok (inside, image) =>
      if start.limit = 0 then .ok (.timeout, files)
      else
        let ended := runImage start image (startState start inside)
        .ok (outcomeOf ended, { ended.machine.files with workingDir := files.workingDir })

/-- Why a program cannot start. -/
def spawnFault (start : Start) (reason : String) : String :=
  s!"Failed to spawn '{start.program}' in '{start.cwd}': {reason}"

/-- How a shell command is started. -/
def shellStart (command cwd : String) (env : List (String × String)) (limit : Nat) : Start :=
  ⟨"sh", ["-c", command], cwd, env, limit⟩

end Runbook.Shell
