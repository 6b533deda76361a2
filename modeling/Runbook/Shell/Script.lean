import Runbook.Shell.Builtin

/-!
# Scripts

What becomes of a script as a whole, given what runs its commands.

* `Runner` runs a command;
* `runText` runs a script line by line, and `runWhole` what it has left for its end too;
* `runApart` runs a command in a process of its own, `putInOutput` for its output;
* `Launch` is how the shell is started as a program, and `Launch.run` runs it.
-/

namespace Runbook.Shell

/-- Runs a command; `tested` says that something hangs on whether it fails. -/
abbrev Runner := Descriptors → (tested : Bool) → Command → ShellState → Flow × ShellState

/-! ## Processes -/

namespace ShellState

/-- Whether nothing can happen any more. -/
def isOver (s : ShellState) : Bool := s.killed.isSome || s.deadline ≤ s.machine.clock

/-- The line on which so many characters are left. -/
def lineAt (s : ShellState) (left : Nat) : Nat :=
  (s.script.take (s.script.length - left)).count '\n' + 1

/-- Goes on after a process that worked on a copy of the state. -/
def afterChild (s child : ShellState) : ShellState :=
  let files := { child.machine.files with workingDir := s.machine.files.workingDir }
  { s with
    machine := { child.machine with files }
    status := child.status
    arrived := child.arrived
    killed := child.killed }

/-- The variables that programs see. -/
def env (s : ShellState) : KeyMap String :=
  KeyMap.ofList (s.vars.entries.filter (fun (name, _) => s.exported.contains name))

/-- The state of a new process for a script. -/
def forScript (s : ShellState) (name : String) (args : List String) (script : List Char) :
    ShellState where
  machine := s.machine
  name := name
  args := args
  vars := s.env.insert cursorName "1"
  exported := s.exported
  part := none
  fixed := .empty
  outer := none
  functions := .empty
  status := 0
  putInStatus := none
  stopOnFailure := false
  refuseUnset := false
  traced := false
  plainPatterns := false
  traps := s.traps.forChild
  outside := none
  arrived := []
  cursor := .start
  lasting := []
  jobs := []
  processId := s.processId + 1
  calls := 0
  loops := 0
  killed := none
  deadline := s.deadline
  script := script

end ShellState

/-- Ends the script if nothing can happen any more. -/
def settle (result : Flow × ShellState) : Flow × ShellState :=
  if result.2.isOver then (.exit, result.2) else result

/-! ## Mistakes -/

/-- Ends the script because of a mistake. -/
def broken (fds : Descriptors) (line : Nat) (text : String) (s : ShellState) : Flow × ShellState :=
  (.exit, { Builtin.complain fds line (s.partTitle ++ text) s with status := 2 })

/-! ## Scripts -/

/-- Runs a script line by line; `fuel` is more than its length. -/
def runText (run : Runner) (fds : Descriptors) (tested : Bool) : (fuel : Nat) → List Char →
    ShellState → Flow × ShellState
  | 0, _, s => (.next, s)
  | _ + 1, [], s => (.next, s)
  | fuel + 1, cs, s =>
    match readLine cs with
    | .error fault => broken (s.lasting ++ fds) (s.lineAt fault.left) fault.message s
    | .ok (command, rest) =>
      match run fds tested command s with
      | (.next, s) => runText run fds tested fuel rest s
      | ended => ended

/-- Runs what is to run at the end of a script. -/
def runAtEnd (run : Runner) (fds : Descriptors) (s : ShellState) : ShellState :=
  match s.traps.action? Signal.atEnd with
  | none => s
  | some text =>
    if s.isOver then s
    else
      let (flow, after) := runText run (s.lasting ++ fds) false (text.length + 1) text.toList
        { s with
          traps := s.traps.set Signal.atEnd none
          part := none
          script := text.toList }
      if flow = .exit then after else { after with status := s.status }

/-- Runs a script from its beginning to its end. -/
def runWhole (run : Runner) (fds : Descriptors) (s : ShellState) : ShellState :=
  runAtEnd run fds (runText run fds false (s.script.length + 1) s.script s).2

/-- Runs a command in a process of its own. -/
def runApart (run : Runner) (fds : Descriptors) (tested : Bool) (command : Command)
    (s : ShellState) : Flow × ShellState :=
  let child := (run fds tested command { s with
    traps := s.traps.forChild
    outside := some (s.outside.getD s.traps) }).2
  (.next, s.afterChild (runAtEnd run fds child))

/-- A text without the line ends at its end. -/
def dropLineEnds (cs : List Char) : List Char := (cs.reverse.dropWhile (· == '\n')).reverse

/-- Runs a command for its output. -/
def putInOutput (run : Runner) (fds : Descriptors) : PutIn := fun command s =>
  let (index, m) := s.machine.addOutput
  let s := { s with machine := m }
  let (_, s) := runApart run ((1, .output index) :: fds) false command s
  (dropLineEnds (Utf8.decodeLossy (s.machine.collected index)).toList,
    { s with putInStatus := some s.status })

/-- Runs a text as a part of the script; what is told of mistakes in it begins with its name. -/
def runPart (run : Runner) (fds : Descriptors) (tested : Bool) (part text : String)
    (s : ShellState) : Flow × ShellState :=
  let (flow, after) := runText run fds tested (text.length + 1) text.toList
    { s with script := text.toList, part := some part, status := 0 }
  (flow, { after with script := s.script, part := s.part })

/-! ## The shell as a program -/

/-- How the shell is started as a program. -/
structure Launch where
  /-- The letters of the ways that are set. -/
  ways : List Char
  /-- What the script is called. -/
  name : String
  /-- Its arguments. -/
  args : List String
  /-- The script. -/
  text : String

namespace Launch

/-- How the arguments of the shell say that it is started, given what can be read; or what is wrong
with them. -/
def ofArgs (files : FileSystem) (input : List UInt8) (name : String) (args : List String) :
    Except String Launch := do
  let isOption (a : String) : Bool := a.toList.head? = some '-' && a.length > 1 && a ≠ "--"
  let letters := (args.takeWhile isOption).flatMap (fun a => a.toList.drop 1)
  let operands := args.dropWhile isOption
  let ways := letters.filter (fun c => c != 'c' && c != 's')
  match ways.find? (fun c => !Builtin.longWays.any (fun (_, letter) => letter == c)) with
  | some c => throw s!"Illegal option -{String.singleton c}"
  | none =>
    match letters.contains 'c', letters.contains 's', operands with
    | true, _, [] => throw "-c requires an argument"
    | true, _, text :: rest => return ⟨ways, rest.head?.getD name, rest.drop 1, text⟩
    | false, true, rest => return ⟨ways, name, rest, Utf8.decodeLossy input⟩
    | false, false, [] => return ⟨ways, name, [], Utf8.decodeLossy input⟩
    | false, false, path :: rest =>
      match files.readBytes path with
      | .ok content => return ⟨ways, path, rest, Utf8.decodeLossy content⟩
      | .error _ => throw s!"cannot open {path}: No such file"

/-- The state in which the script begins. -/
def begin (launch : Launch) (s : ShellState) : ShellState :=
  let child := s.forScript launch.name launch.args launch.text.toList
  launch.ways.foldl (fun s letter => Builtin.setWay true letter s) child

/-- Runs the script in a process of its own. -/
def run (launch : Launch) (runner : Runner) (fds : Descriptors) (s : ShellState) : ShellState :=
  let child := runWhole runner fds (launch.begin s)
  match child.killed with
  | some signal =>
    let after := s.afterChild { child with killed := none, arrived := s.arrived }
    { (Signal.endText? signal).elim after (fun text => after.onMachine (·.complain fds text)) with
      status := 128 + signal }
  | none => s.afterChild { child with arrived := s.arrived }

end Launch

end Runbook.Shell
