import Runbook.Shell.Script
import Runbook.Shell.Utility

/-!
# Programs

The programs that scripts call: utilities, the shell itself, scripts that can be started, and
programs that run others.

* `runNamed` runs a program by its name;
* `runProgram` runs one that may have to run another.
-/

namespace Runbook.Shell

/-- Whether the first line of a script names a shell. -/
def namesShell (content : List UInt8) : Bool :=
  match content with
  | 35 :: 33 :: rest =>
    let line := Utf8.decodeLossy (rest.takeWhile (· != 10))
    "sh".toList.isSuffixOf (dropLineEnds (line.toList.filter (· != ' ')))
  | _ => true

/-- The names of the shell. -/
def shellNames : List String := ["sh", "dash", "bash", "/bin/sh", "/bin/bash", "/usr/bin/sh"]

/-- The time limit in front of a program, in milliseconds, and the program; no program if the
arguments are others. -/
def limited? (name : String) (args : List String) : Option (Nat × String × List String) :=
  match name, args with
  | "timeout", limit :: name :: args => (Utility.duration? limit).map (fun ms => (ms, name, args))
  | _, _ => none

/-- Runs a program that may take so long. -/
def runLimited (limit : Nat) (run : ShellState → ShellState) (s : ShellState) : ShellState :=
  let after := run s
  let stop := s.machine.clock + limit
  if after.machine.clock ≤ stop then after
  else { after with status := 124, machine := { after.machine with clock := stop } }

/-- Runs the shell as a program. -/
def runShell (run : Runner) (fds : Descriptors) (args : List String) (s : ShellState) :
    ShellState :=
  let input := Machine.target fds 0
  match Launch.ofArgs s.machine.files (s.machine.remaining input) "sh" args with
  | .ok launch => launch.run run fds s
  | .error text => { s.onMachine (·.complain fds s!"sh: 0: {text}") with status := 2 }

/-- Runs a program that is found by its name; `title` begins what is told of it. -/
def runNamed (run : Runner) (fds : Descriptors) (line : Nat) (title name : String)
    (args : List String) (s : ShellState) : ShellState :=
  if shellNames.contains name then runShell run fds args s
  else match Utility.find? name with
    | some utility =>
      let (status, m) := utility ⟨name, args, fds, s.env⟩ s.machine
      { s with machine := m, status }
    | none =>
      let refuse (status : Nat) (reason : String) : ShellState :=
        { Builtin.complain fds line s!"{title}{name}: {reason}" s with status }
      if name.isEmpty then refuse 127 "Permission denied"
      else if !name.toList.contains '/' then refuse 127 "not found"
      else match s.machine.files.find? name with
        | some (.file content true) =>
          if namesShell content then
            Launch.run ⟨[], name, args, Utf8.decodeLossy content⟩ run fds s
          else refuse 127 "not found"
        | some _ => refuse 126 "Permission denied"
        | none => refuse 127 "not found"

/-- Runs a program for some words at a time; the worst of the exit codes counts. -/
def runForWords (run : List String → ShellState → ShellState) : List (List String) → ShellState →
    ShellState
  | [], s => s
  | words :: rest, s =>
    let worst := s.status
    let after := run words { s with status := 0 }
    let failed := worst ≠ 0 || after.status ≠ 0
    runForWords run rest { after with status := if failed then 123 else 0 }

/-- The words of a text with blanks between them. -/
def blankWords (cs : List Char) : List String :=
  let step (acc : List (List Char)) (c : Char) : List (List Char) :=
    if c = ' ' || c = '\t' || c = '\n' then [] :: acc
    else match acc with
      | [] => [[c]]
      | word :: rest => (c :: word) :: rest
  (((cs.foldl step []).filter (fun word => !word.isEmpty)).map
    (fun word => String.ofList word.reverse)).reverse

/-- Splits words into groups of so many; `fuel` is at least their number. -/
def inGroups (size : Nat) : (fuel : Nat) → List String → List (List String)
  | 0, _ => []
  | _ + 1, [] => []
  | fuel + 1, words => words.take size :: inGroups size fuel (words.drop size)

/-- Runs a program, perhaps with a time limit or other variables, or for the words of the input. -/
def runProgram (run : Runner) (fds : Descriptors) (line : Nat) (title : String)
    (words : List String) (s : ShellState) : ShellState :=
  match words with
  | [] => s
  | "env" :: args | "/usr/bin/env" :: args =>
    let isAssign (arg : String) : Bool := arg.toList.contains '='
    let assigned := (args.takeWhile isAssign).foldl (fun s arg =>
      let (name, value) := Builtin.splitAssignment arg
      { s.assign name (value.getD "") with exported := s.exported.insert name () }) s
    let (name, args) := match args.dropWhile isAssign with
      | [] => ("printenv", [])
      | name :: args => (name, args)
    { runNamed run fds line title name args assigned with vars := s.vars, exported := s.exported }
  | "xargs" :: args =>
    let (count, command) := match args with
      | "-n" :: count :: rest => (count.toNat?, rest)
      | first :: rest =>
        match first.toList with
        | '-' :: 'n' :: ds => (Decimal.readNat? ds, rest)
        | _ => (none, args)
      | [] => (none, [])
    let (name, args) := match command with
      | [] => ("echo", [])
      | name :: args => (name, args)
    let (bytes, m) := s.machine.readAll (Machine.target fds 0)
    let given := blankWords (Utf8.decodeLossy bytes).toList
    let groups := if given.isEmpty then [[]]
      else inGroups (max (count.getD given.length) 1) given.length given
    runForWords (fun words => runNamed run fds line title name (args ++ words)) groups
      { s with machine := m, status := 0 }
  | name :: args =>
    match limited? name args with
    | some (limit, name, args) => runLimited limit (runNamed run fds line title name args) s
    | none => runNamed run fds line title name args s

/-- Where a program lies that can be called by its name alone. -/
def programPath? (name : String) : Option String :=
  if (Utility.find? name).isSome || shellNames.contains name ||
      ["env", "xargs", "timeout"].contains name then
    some (if name.toList.contains '/' then name else "/usr/bin/" ++ name)
  else none

end Runbook.Shell
