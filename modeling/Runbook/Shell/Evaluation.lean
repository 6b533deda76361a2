import Runbook.Shell.Program

/-!
# Running scripts

What a script does, command by command.

* `runSimple` runs a simple command, `runStep` any command, given what runs its parts;
* `runCommand` ties them together.
-/

namespace Runbook.Shell

/-! ## Simple commands -/

/-- What is wrong with a descriptor that is no number. -/
def badDescriptor : String := "Syntax error: Bad fd number"

/-- Opens what a redirection leads to. -/
def openRedirect (run : Runner) (fds : Descriptors) (redirect : Redirect) (s : ShellState) :
    Except String Descriptors × ShellState :=
  match redirect with
  | .mk descriptor kind word =>
    match (expandText (putInOutput run fds) word).run s with
    | (.error text, s) => (.error text, s)
    | (.ok target, s) =>
      if kind = .copy then
        match target.toNat? with
        | some n =>
          if Machine.target fds n = .closed then (.error s!"{n}: Bad file descriptor", s)
          else (.ok ((descriptor, Machine.target fds n) :: fds), s)
        | none =>
          if target = "-" then (.ok ((descriptor, .closed) :: fds), s)
          else (.error badDescriptor, s)
      else match s.machine.openFile kind target with
        | .ok (target, m) => (.ok ((descriptor, target) :: fds), { s with machine := m })
        | .error text => (.error text, s)

/-- Opens what redirections lead to, in order. -/
def openRedirects (run : Runner) : List Redirect → Descriptors → ShellState →
    Except String Descriptors × ShellState
  | [], fds, s => (.ok fds, s)
  | redirect :: rest, fds, s =>
    match openRedirect run fds redirect s with
    | (.ok fds, s) => openRedirects run rest fds s
    | failed => failed

/-- Makes assignments, in order. -/
def makeAssigns (putIn : PutIn) : List (String × Word) → Expand Unit
  | [] => return
  | (name, word) :: rest => do
    setVar name (← expandText putIn word)
    makeAssigns putIn rest

/-- Commands whose assignments stay. -/
def keepsAssigns (name : String) : Bool :=
  [":", "export", "readonly", "set", "unset", "shift", "exit", "eval", ".", "break", "continue",
    "return", "trap", "exec"].contains name

/-- Puts variables back to what they were. -/
def restoreVars (before : ShellState) (names : List String) (s : ShellState) : ShellState :=
  names.foldl (fun s name =>
    { s with
      vars := match before.vars.find? name with
        | some v => s.vars.insert name v
        | none => s.vars.erase name
      exported := if before.exported.contains name then s.exported
        else s.exported.erase name }) s

/-- Puts the variables that a function has made its own back to what they were. -/
def dropOwn (s : ShellState) : ShellState :=
  (s.outer.getD []).foldl (fun s (name, value) =>
    { s with vars := value.elim (s.vars.erase name) (s.vars.insert name) }) s

/-- How many calls of functions a command can be in. -/
def callDepth : Nat := 1000

/-- Calls a function. -/
def callFunction (run : Runner) (fds : Descriptors) (tested : Bool) (line : Nat) (body : Command)
    (args : List String) (s : ShellState) : Flow × ShellState :=
  if callDepth ≤ s.calls then
    broken fds line s!"Maximum function recursion depth ({callDepth}) reached" s
  else
    let (flow, after) := run fds tested body
      { s.withArgs args with outer := some [], calls := s.calls + 1, loops := 0 }
    (if flow = .back then .next else flow,
      { dropOwn after with
        args := s.args, cursor := s.cursor, outer := s.outer, calls := s.calls, loops := s.loops })

/-- Tells what a name stands for. -/
def describe (fds : Descriptors) (name : String) (s : ShellState) : Flow × ShellState :=
  if s.functions.contains name || (builtin? name).isSome then
    Builtin.done 0 (s.onMachine (·.say fds (name ++ "\n")))
  else match programPath? name with
    | some path => Builtin.done 0 (s.onMachine (·.say fds (path ++ "\n")))
    | none => Builtin.done 127 s

/-- Tells where programs lie. -/
def tellPaths (fds : Descriptors) (names : List String) (s : ShellState) : Flow × ShellState :=
  let paths := names.filterMap programPath?
  let s := paths.foldl (fun s path => s.onMachine (·.say fds (path ++ "\n"))) s
  Builtin.done (if paths.length = names.length then 0 else 1) s

/-- Tells what names are. -/
def tellTypes (fds : Descriptors) (names : List String) (s : ShellState) : Flow × ShellState :=
  names.foldl (fun (acc : Flow × ShellState) name =>
    let s := acc.2
    let tell (status : Nat) (what : String) : Flow × ShellState :=
      Builtin.done status (s.onMachine (·.say fds s!"{name}{what}\n"))
    if s.functions.contains name then tell s.status " is a shell function"
    else if Builtin.special.contains name then tell s.status " is a special shell builtin"
    else if (builtin? name).isSome then tell s.status " is a shell builtin"
    else match programPath? name with
      | some path => tell s.status (" is " ++ path)
      | none => tell 127 ": not found") (Builtin.done 0 s)

/-- Calls a command by its name. -/
def invoke (run : Runner) (fds : Descriptors) (tested : Bool) (line : Nat) (name : String)
    (args : List String) (s : ShellState) : Flow × ShellState :=
  match name, args with
  | "eval", args => runPart run fds tested "eval" (" ".intercalate args) s
  | ".", path :: _ =>
    match s.machine.files.readBytes path with
    | .ok content =>
      let (flow, s) := runPart run fds tested path (Utf8.decodeLossy content) s
      (if flow = .back then .next else flow, s)
    | .error _ =>
      let reason := if path.toList.contains '/' then s!"cannot open {path}: No such file"
        else s!"{path}: not found"
      Builtin.breakOff fds line s!".: {reason}" s
  | "exec", [] => Builtin.done 0 s
  | "exec", name :: args =>
    (.exit, runProgram run fds line "exec: " (name :: args) { s with
      traps := s.traps.set Signal.atEnd none })
  | "command", "-v" :: name :: _ => describe fds name s
  | "command", "-V" :: names => tellTypes fds names s
  | "type", names => tellTypes fds names s
  | "which", names => tellPaths fds names s
  | "command", name :: args =>
    match builtin? name with
    | some b => b fds line args s
    | none => (.next, runProgram run fds line s.partTitle (name :: args) s)
  | name, args =>
    match s.functions.find? name, builtin? name with
    | some body, _ => callFunction run fds tested line body args s
    | none, some b => b fds line args s
    | none, none => (.next, runProgram run fds line s.partTitle (name :: args) s)

/-- Ends the script after a failure that nothing hangs on, if it is to. -/
def stopIfFailed (tested : Bool) (result : Flow × ShellState) : Flow × ShellState :=
  match result with
  | (.next, s) =>
    if s.stopOnFailure && !tested && s.status ≠ 0 then (.exit, s) else (.next, s)
  | other => other

/-- Writes a command down before it runs. -/
def trace (fds : Descriptors) (assigns : List String) (fields : List String) (s : ShellState) :
    ShellState :=
  if s.traced && !(assigns ++ fields).isEmpty then
    let words := assigns.map (fun name => name ++ "=" ++ (s.value? name).getD "") ++ fields
    s.onMachine (·.complain fds ("+ " ++ " ".intercalate words))
  else s

/-- Runs a command whose words are given; `before` is the state before its assignments, and `inner`
are the descriptors of the command. -/
def runFields (run : Runner) (fds inner : Descriptors) (tested : Bool) (line : Nat)
    (names : List String) (fields : List String) (before after : ShellState) :
    Flow × ShellState :=
  match fields with
  | [] => Builtin.done (after.putInStatus.getD 0) after
  | ["exec"] =>
    Builtin.done 0 { after with
      lasting := inner.take (inner.length - fds.length) ++ after.lasting }
  | name :: args =>
    if keepsAssigns name then invoke run inner tested line name args after
    else
      let seen := names.foldl (fun e n => e.insert n ()) after.exported
      let (flow, after) := invoke run inner tested line name args { after with exported := seen }
      (flow, restoreVars before names after)

/-- Runs a simple command. -/
def runSimple (run : Runner) (fds : Descriptors) (tested : Bool) (line : Nat)
    (assigns : List (String × Word)) (words : List Word) (redirects : List Redirect)
    (s : ShellState) : Flow × ShellState :=
  let putIn := putInOutput run fds
  match (expandWords putIn words).run { s with putInStatus := none } with
  | (.error text, s) => broken fds line text s
  | (.ok fields, s) =>
    match openRedirects run redirects fds s with
    | (.error text, s) =>
      if fields.head?.any Builtin.special.contains || text = badDescriptor then
        broken fds line text s
      else stopIfFailed tested
        (Builtin.done 2 (Builtin.complain fds line (s.partTitle ++ text) s))
    | (.ok inner, s) =>
      match (makeAssigns putIn assigns).run s with
      | (.error text, s) => broken fds line text s
      | (.ok (), after) =>
        let names := assigns.map (·.1)
        stopIfFailed tested
          (runFields run fds inner tested line names fields s (trace fds names fields after))

/-! ## Compound commands -/

/-- Runs a command with redirections. -/
def runRedirected (run : Runner) (fds : Descriptors) (redirects : List Redirect) (s : ShellState)
    (body : Descriptors → ShellState → Flow × ShellState) : Flow × ShellState :=
  match openRedirects run redirects fds s with
  | (.error text, s) => Builtin.done 2 (Builtin.complain fds 1 text s)
  | (.ok fds, s) => body fds s

/-- How a loop goes on after its body: with the next pass, or with this. -/
def afterPass : Flow → Option Flow
  | .next => none
  | .again n => if n ≤ 1 then none else some (.again (n - 1))
  | .leave n => some (if n ≤ 1 then .next else .leave (n - 1))
  | .exit => some .exit
  | .back => some .back

/-- Runs a loop, in which commands can go out of it. -/
def inLoop {α : Type} (loop : ShellState → α × ShellState) (s : ShellState) : α × ShellState :=
  let (flow, after) := loop { s with loops := s.loops + 1 }
  (flow, { after with loops := s.loops })

/-- Runs a pass of a loop by the success of a command; no flow means that another pass follows. -/
def runPass (run : Runner) (fds : Descriptors) (tested untilTrue : Bool) (test body : Command)
    (s : ShellState) : Option Flow × ShellState :=
  match run fds true test s with
  | (.next, checked) =>
    if (checked.status = 0) = untilTrue then (some .next, { checked with status := 0 })
    else
      let (flow, after) := run fds tested body checked
      (afterPass flow, after)
  | (flow, checked) => ((afterPass flow).or (some .next), checked)

/-- Runs the body of a loop for each word. -/
def runEach (run : Runner) (fds : Descriptors) (tested : Bool) (var : String) (body : Command) :
    List String → ShellState → Flow × ShellState
  | [], s => (.next, s)
  | value :: rest, s =>
    if s.fixed.contains var then
      (.exit, { Builtin.complain fds 1 s!"{var}: is read only" s with status := 2 })
    else
      let (flow, s) := run fds tested body (s.assign var value)
      match afterPass flow with
      | none => runEach run fds tested var body rest s
      | some flow => (flow, s)

/-- Whether one of the patterns matches. -/
def matchesAny (putIn : PutIn) (text : List Char) : List Word → Expand Bool
  | [] => return false
  | pattern :: rest => do
    if wildcardMatches (← expandPattern putIn pattern) text then return true
    matchesAny putIn text rest

/-- The branch whose patterns match. -/
def findBranch (putIn : PutIn) (text : List Char) : List (List Word × Command) →
    Expand (Option Command)
  | [] => return none
  | (patterns, body) :: rest => do
    if ← matchesAny putIn text patterns then return some body
    findBranch putIn text rest

/-- Runs both sides of a pipeline: the second reads what the first has written. -/
def runPipe (run : Runner) (fds : Descriptors) (first second : Command) (s : ShellState) :
    Flow × ShellState :=
  let started := s.machine.clock
  let (index, m) := s.machine.addOutput
  let (_, left) := runApart run ((1, .output index) :: fds) true first { s with machine := m }
  let ended := left.machine.clock
  let (input, m) := left.machine.addInput (left.machine.collected index)
  let (_, right) := runApart run ((0, .input input) :: fds) true second
    { left with machine := { m with clock := started } }
  (.next, right.onMachine (fun m => { m with clock := max m.clock ended }))

/-- Runs a command beside what follows. -/
def runBackground (run : Runner) (fds : Descriptors) (command : Command) (s : ShellState) :
    Flow × ShellState :=
  let started := s.machine.clock
  let (_, after) := runApart run ((0, .nothing) :: fds) true command s
  (.next, { after with
    status := 0
    jobs := (s.processId + s.jobs.length + 1, after.status) :: s.jobs
    machine := { after.machine with
      clock := started
      lingering := max after.machine.lingering after.machine.clock } })

/-- Turns success around. -/
def negated (s : ShellState) : ShellState := { s with status := if s.status = 0 then 1 else 0 }

/-- Runs a command that is not a simple one, or a simple one. -/
def runStep (run : Runner) : Runner := fun fds tested command s =>
  match command with
  | .nothing => (.next, s)
  | .simple left assigns words redirects =>
    runSimple run fds tested (s.lineAt left) assigns words redirects s
  | .seq first second =>
    match run fds tested first s with
    | (.next, s) => run fds tested second s
    | ended => ended
  | .both first second =>
    match run fds true first s with
    | (.next, s) => if s.status = 0 then run fds tested second s else (.next, s)
    | ended => ended
  | .either first second =>
    match run fds true first s with
    | (.next, s) => if s.status = 0 then (.next, s) else run fds tested second s
    | ended => ended
  | .negate command =>
    match run fds true command s with
    | (.next, s) => (.next, negated s)
    | ended => ended
  | .pipe first second => stopIfFailed tested (runPipe run fds first second s)
  | .background command => runBackground run fds command s
  | .group apart body redirects =>
    runRedirected run fds redirects s (fun fds s =>
      if apart then stopIfFailed tested (runApart run fds tested body s) else run fds tested body s)
  | .cond test yes no redirects =>
    runRedirected run fds redirects s (fun fds s =>
      match run fds true test s with
      | (.next, s) =>
        if s.status = 0 then run fds tested yes s else run fds tested no { s with status := 0 }
      | ended => ended)
  | .loop untilTrue test body redirects =>
    runRedirected run fds redirects s (fun fds s =>
      let (flow, after) := inLoop (runPass run fds tested untilTrue test body) s
      match flow with
      | some flow => (flow, after)
      | none => run fds tested (.loop untilTrue test body []) after)
  | .each var words body redirects =>
    runRedirected run fds redirects s (fun fds s =>
      match words with
      | none => inLoop (runEach run fds tested var body s.args) { s with status := 0 }
      | some words =>
        match (expandWords (putInOutput run fds) words).run s with
        | (.error text, s) => broken fds 1 text s
        | (.ok values, s) =>
          inLoop (runEach run fds tested var body values) { s with status := 0 })
  | .choose word branches redirects =>
    runRedirected run fds redirects s (fun fds s =>
      let putIn := putInOutput run fds
      let choice : Expand (Option Command) := do
        let text ← expandText putIn word
        findBranch putIn text.toList branches
      match choice.run s with
      | (.error text, s) => broken fds 1 text s
      | (.ok (some body), s) => run fds tested body { s with status := 0 }
      | (.ok none, s) => (.next, { s with status := 0 }))
  | .define name body => (.next, { s with functions := s.functions.insert name body, status := 0 })

/-- Runs a command with the descriptors that the script has changed. -/
def runLasting (run : Runner) : Runner := fun fds tested command s =>
  let (flow, after) := run (s.lasting ++ fds) tested command { s with lasting := [] }
  (flow, { after with lasting := after.lasting ++ s.lasting })

/-- Does what is to be done on a signal.  The exit code is then what it was, unless a function
returns. -/
def runTrap (run : Runner) (fds : Descriptors) (action : String) (s : ShellState) :
    Flow × ShellState :=
  let (flow, after) := runText run (s.lasting ++ fds) false (action.length + 1) action.toList
    { s with part := none, script := action.toList, lasting := [] }
  (flow, { after with
    part := s.part
    script := s.script
    lasting := after.lasting ++ s.lasting
    status := if flow = .back || flow = .exit then after.status else s.status })

/-- Does what is to be done on signals, the lowest first, as long as the script goes on. -/
def runTraps (run : Runner) (fds : Descriptors) : List Signal → ShellState → Flow × ShellState
  | [], s => (.next, s)
  | signal :: rest, s =>
    match runTrap run fds ((s.traps.action? signal).getD "") s with
    | (.next, s) => runTraps run fds rest s
    | ended => ended

/-- Takes the signals that have arrived after a command. -/
def takeArrived (run : Runner) (fds : Descriptors) (result : Flow × ShellState) :
    Flow × ShellState :=
  match result with
  | (.next, s) =>
    if s.arrived.isEmpty || s.outside.isSome then (.next, s)
    else
      let signals := (List.range (Signal.last + 1)).filter s.arrived.contains
      runTraps run fds signals { s with arrived := [] }
  | ended => ended

/-- Runs a command, its parts at most so deep; one that goes deeper never ends. -/
def runCommand : (fuel : Nat) → Runner
  | 0 => fun _ _ _ s => (.exit, s.onMachine (fun m => { m with clock := max m.clock s.deadline }))
  | fuel + 1 => fun fds tested command s =>
    let result := runLasting (runStep (runCommand fuel)) fds tested command s
    settle (takeArrived (runCommand fuel) fds result)

end Runbook.Shell
