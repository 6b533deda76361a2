import Runbook.Shell.Expansion
import Runbook.Shell.Format
import Runbook.Shell.Test

/-!
# Commands of the shell

The commands that a shell does itself, because they change its state.

* `Flow` is how a script goes on after a command;
* `builtin?` has the commands by name.
-/

namespace Runbook.Shell

/-- How a script goes on. -/
inductive Flow where
  /-- With the next command. -/
  | next
  /-- Not at all. -/
  | exit
  /-- After the loop so many levels up. -/
  | leave (levels : Nat)
  /-- With the next pass of the loop so many levels up. -/
  | again (levels : Nat)
  /-- After the call of the function. -/
  | back
  deriving DecidableEq, Repr

/-- A command of the shell: it has arguments, and a place to write complaints. -/
abbrev Builtin := Descriptors → (line : Nat) → (args : List String) → ShellState → Flow × ShellState

namespace Builtin

/-- Goes on with an exit code. -/
def done (status : Nat) (s : ShellState) : Flow × ShellState := (.next, { s with status })

/-- Says what is wrong. -/
def complain (fds : Descriptors) (line : Nat) (text : String) (s : ShellState) : ShellState :=
  s.onMachine (·.complain fds s!"{s.name}: {line}: {text}")

/-- Says what is wrong, and ends the script. -/
def breakOff (fds : Descriptors) (line : Nat) (text : String) (s : ShellState) :
    Flow × ShellState :=
  (.exit, { complain fds line text s with status := 2 })

/-- Goes on with the number among the arguments, or another; what is no number ends the script. -/
def withNumber (name : String) (default : ShellState → Nat)
    (next : Nat → ShellState → Flow × ShellState) : Builtin := fun fds line args s =>
  match args with
  | [] => next (default s) s
  | arg :: _ =>
    match Decimal.readNat? arg.toList with
    | some n => next n s
    | none => breakOff fds line s!"{name}: Illegal number: {arg}" s

/-- Ends the script. -/
def exit : Builtin :=
  withNumber "exit" (·.status) (fun n s => (.exit, { s with status := n % 256 }))

/-- Leaves a function, or the script. -/
def back : Builtin :=
  withNumber "return" (·.status) (fun n s => (.back, { s with status := n % 256 }))

/-- Goes out of loops, at most as many as there are. -/
def fromLoops (name : String) (flow : Nat → Flow) : Builtin :=
  withNumber name (fun _ => 1) (fun n s =>
    (if s.loops = 0 then .next else flow (min n s.loops), { s with status := 0 }))

/-- Drops arguments of the script. -/
def shift : Builtin := fun fds line args s =>
  withNumber "shift" (fun _ => 1) (fun n s =>
    if s.args.length < n then breakOff fds line "shift: can't shift that many" s
    else done 0 (s.withArgs (s.args.drop n))) fds line args s

/-- The working directory. -/
def here (s : ShellState) : String := FileSystem.placeText s.machine.files.workingDir

/-- Goes to another directory; a hyphen is the one before. -/
def cd : Builtin := fun fds line args s =>
  let operands := args.filter (fun a => a ≠ "--" && a ≠ "-L" && a ≠ "-P")
  let target := match operands with
    | [] => (s.value? "HOME").getD ""
    | "-" :: _ => (s.value? "OLDPWD").getD (here s)
    | path :: _ => path
  match s.machine.files.inside (if target.isEmpty then "." else target) with
  | .ok files =>
    let after := (s.assign "OLDPWD" (here s)).onMachine (fun m => { m with files })
    let after := after.assign "PWD" (here after)
    done 0 (if operands.head? = some "-" then after.onMachine (·.say fds (here after ++ "\n"))
      else after)
  | .error _ => done 2 (complain fds line s!"cd: can't cd to {target}" s)

/-- Writes the working directory. -/
def pwd : Builtin := fun fds _ _ s => done 0 (s.onMachine (·.say fds (here s ++ "\n")))

/-- Writes its arguments. -/
def echo : Builtin := fun fds _ args s => done 0 (s.onMachine (·.writeTo fds 1 (echoBytes args)))

/-- Writes its arguments in a format. -/
def printf : Builtin := fun fds line args s =>
  match args with
  | [] => done 2 (complain fds line "printf: usage: printf format [arg ...]" s)
  | format :: args =>
    let option := (format.toList.drop 1).take 1
    if format.toList.head? = some '-' && !option.isEmpty && format ≠ "--" then
      done 2 (complain fds line s!"printf: Illegal option -{String.ofList option}" s)
    else
      let (format, args) := if format = "--" then (args.head?.getD "", args.drop 1)
        else (format, args)
      let (bytes, faults, broken) := formatBytes format args
      let s := s.onMachine (·.writeTo fds 1 bytes)
      let s := (faults ++ broken.toList).foldl (fun s fault =>
        complain fds line s!"printf: {fault}" s) s
      done (if broken.isSome then 2 else if faults.isEmpty then 0 else 1) s

/-- Tests something; `bracket` says that a closing bracket has to follow. -/
def test (bracket : Bool) : Builtin := fun fds line args s =>
  let name := if bracket then "[" else "test"
  if bracket && args.getLast? ≠ some "]" then done 2 (complain fds line "[: missing ]" s)
  else match evalTest s.machine.files (if bracket then args.dropLast else args) with
    | .ok b => done (if b then 0 else 1) s
    | .error fault =>
      let text := fault.message
      done 2 (complain fds line s!"{name}: {text}" s)

/-! ## Signals and processes -/

/-- The list of all signals. -/
def signalList : String := "0\n" ++ String.join ((Signal.names.drop 1 ++
  (List.range' Signal.firstFree (Signal.last + 1 - Signal.firstFree)).map Signal.name).map (· ++ "\n"))

/-- The name of the signal that a number stands for, or an exit code that a signal has caused. -/
def signalName (text : String) : Except String String :=
  match Decimal.readNat? text.toList with
  | none => .error s!"Illegal number: {text}"
  | some code =>
    let n := if 128 < code then code - 128 else code
    if 0 < n && n ≤ Signal.last then .ok (Signal.name n)
    else .error s!"invalid signal number or exit status: {text}"

/-- How sending a signal is written. -/
def killUsage : String :=
  "Usage: kill [-s sigspec | -signum | -sigspec] [pid | job]... or\nkill -l [exitstatus]"

/-- What sending a signal is asked for. -/
inductive KillRequest where
  /-- A signal for processes. -/
  | send (signal : Signal) (targets : List String)
  /-- The names of signals. -/
  | list (codes : List String)

/-- What the arguments ask for. -/
def killRequest (args : List String) : Except String KillRequest :=
  let signalOf (name : String) : Except String Signal :=
    match Signal.ofText? 1 name with
    | some n => .ok n
    | none => .error s!"invalid signal number or name: {name}"
  let sending (signal : Signal) (targets : List String) : Except String KillRequest :=
    if targets.isEmpty then .error killUsage else .ok (.send signal targets)
  match args with
  | [] => .error killUsage
  | first :: rest =>
    match first.toList with
    | '-' :: cs =>
      match Signal.ofText? 1 (String.ofList cs), cs, rest with
      | some n, _, rest => sending n rest
      | none, ['l'], rest => .ok (.list (if rest.head? = some "--" then rest.drop 1 else rest))
      | none, ['-'], rest => sending Signal.usual rest
      | none, ['s'], name :: rest => do
        sending (← signalOf name) (if rest.head? = some "--" then rest.drop 1 else rest)
      | none, ['s'], [] => .error "No arg for -s option"
      | none, 's' :: name, rest => do sending (← signalOf (String.ofList name)) rest
      | none, cs, _ => .error s!"Illegal option -{String.ofList (cs.take 1)}"
    | _ => sending Signal.usual args

/-- Ends a command in the background. -/
def endJob (s : ShellState) (id signal : Nat) : ShellState :=
  { s with
    jobs := s.jobs.map (fun (i, code) => (i, if i = id then 128 + signal else code))
    machine := { s.machine with lingering := s.machine.clock } }

/-- What a signal does to the shell, which may have a command in a process of its own send it. -/
def takeSignal (signal : Signal) (s : ShellState) : Flow × ShellState :=
  match if Signal.isFinal signal then none else (s.outside.getD s.traps).action? signal with
  | some action => done 0 (if action.isEmpty then s else { s with arrived := signal :: s.arrived })
  | none =>
    if Signal.isHarmless signal then done 0 s else (.exit, { s with killed := some signal })

/-- Sends a signal to processes, one after the other. -/
def sendTo (fds : Descriptors) (line : Nat) (signal : Signal) : List String → (status : Nat) →
    ShellState → Flow × ShellState
  | [], status, s => done status s
  | target :: rest, status, s =>
    match Decimal.readNat? target.toList with
    | none =>
      let text := if target.toList.head? = some '-' then target.toList.drop 1 else target.toList
      if target.toList.head? = some '%' || (Decimal.readNat? text).isSome then
        sendTo fds line signal rest 1 (complain fds line "kill: No such process\n" s)
      else done 2 (complain fds line s!"kill: Illegal number: {String.ofList text}" s)
    | some id =>
      if id = s.processId then
        match takeSignal signal s with
        | (.next, s) => sendTo fds line signal rest status s
        | ended => ended
      else if s.jobs.any (fun (i, _) => i == id) then
        sendTo fds line signal rest status
          (if Signal.isHarmless signal then s else endJob s id signal)
      else sendTo fds line signal rest 1 (complain fds line "kill: No such process\n" s)

/-- Sends a signal, or tells what signals are called. -/
def kill : Builtin := fun fds line args s =>
  match killRequest args with
  | .error text => done 2 (complain fds line s!"kill: {text}" s)
  | .ok (.send signal targets) => sendTo fds line signal targets 0 s
  | .ok (.list []) => done 0 (s.onMachine (·.say fds signalList))
  | .ok (.list (code :: _)) =>
    match signalName code with
    | .ok name => done 0 (s.onMachine (·.say fds (name ++ "\n")))
    | .error text => done 2 (complain fds line s!"kill: {text}" s)

/-- Waits for the commands in the background. -/
def wait : Builtin := fun _ _ args s =>
  let s := s.onMachine (fun m => { m with clock := max m.clock m.lingering })
  match args with
  | [] => done 0 s
  | id :: _ => done (((s.jobs.find? (fun (i, _) => toString i == id)).map (·.2)).getD 127) s

/-- A text in single quotes. -/
def singleQuotes (text : String) : String :=
  let inside := text.toList.flatMap (fun c => if c = '\'' then "'\"'\"'".toList else [c])
  "'" ++ String.ofList inside ++ "'"

/-- Sets what is done on signals, up to one that there is not. -/
def setTraps (fds : Descriptors) (action : Option String) : List String → ShellState →
    Flow × ShellState
  | [], s => done 0 s
  | name :: rest, s =>
    match Signal.ofText? 0 name with
    | some signal => setTraps fds action rest { s with traps := s.traps.set signal action }
    | none => done 1 (s.onMachine (·.complain fds s!"trap: {name}: bad trap"))

/-- Sets what is done on signals and at the end of the script, or tells it. -/
def trap : Builtin := fun fds line args s =>
  match leadingOptions "" args with
  | .error fault => breakOff fds line s!"trap: {fault}" s
  | .ok (_, []) =>
    done 0 (s.traps.foldl (fun s (signal, action) =>
      s.onMachine (·.say fds s!"trap -- {singleQuotes action} {Signal.name signal}\n")) s)
  | .ok (_, [only]) => setTraps fds none [only] s
  | .ok (_, action :: names) =>
    if (Decimal.readNat? action.toList).any (· ≤ Signal.last) then
      setTraps fds none (action :: names) s
    else setTraps fds (if action = "-" then none else some action) names s

/-! ## Variables -/

/-- Whether a text names a variable. -/
def isName (name : String) : Bool := name.toList.all inName && name.toList.head?.any startsName

/-- Gives variables values, one after the other, up to one that cannot change. -/
def assignEach (word : String) (fds : Descriptors) (line : Nat) (status : Nat) :
    List (String × String) → ShellState → Flow × ShellState
  | [], s => done status s
  | (name, value) :: rest, s =>
    if s.fixed.contains name then done 2 (complain fds line s!"{word}: {name}: is read only" s)
    else assignEach word fds line status rest (s.assign name value)

/-- Reads a line into variables. -/
def read : Builtin := fun fds line args s =>
  match leadingOptions "p:r" args with
  | .error fault => done 2 (complain fds line s!"read: {fault}" s)
  | .ok (options, names) =>
    match names, names.find? (fun name => !isName name) with
    | [], _ => done 2 (complain fds line "read: arg count" s)
    | _, some name => done 2 (complain fds line s!"read: {name}: bad variable name" s)
    | _, none =>
      let raw := options.contains (.found 'r' [])
      let (bytes, ended, m) := s.machine.readLine raw (Machine.target fds 0)
      let s := { s with machine := m }
      let cs := (Utf8.decodeLossy (bytes.filter (· != 0))).toList
      let cells := if raw then cs.map (⟨·, false⟩) else lineCells cs
      let texts := lineFields s.separators names.length cells
      let texts := texts ++ List.replicate (names.length - texts.length) ""
      assignEach "read" fds line (if ended then 0 else 1) (names.zip texts) s

/-- What a step of reading options gives to variables: the text for the option, and its argument if
it has one. -/
def optionValues (silent : Bool) : OptionRead → String × Option String
  | .ended => ("?", none)
  | .found c arg => (String.singleton c, some (String.ofList arg))
  | .unknown c => ("?", if silent then some (String.singleton c) else none)
  | .lacking c => if silent then (":", some (String.singleton c)) else ("?", none)

/-- Reads the next option among the arguments, or among those of the script. -/
def getopts : Builtin := fun fds line args s =>
  match args with
  | known :: name :: given =>
    let words := if given.isEmpty then s.args else given
    let silent := known.toList.head? = some ':'
    let (result, cursor) := (s.cursor.within words.length).next known.toList words
    let (letter, arg) := optionValues silent result
    let s := result.fault?.elim s (fun text =>
      if silent then s else s.onMachine (·.complain fds text))
    let s := match arg, result with
      | some arg, _ => s.assign "OPTARG" arg
      | none, .ended => s
      | none, _ => { s with vars := s.vars.erase "OPTARG" }
    let s := { s.assign ShellState.cursorName (toString cursor.word) with cursor }
    assignEach "getopts" fds line (if result = .ended then 1 else 0) [(name, letter)] s
  | _ => done 2 (complain fds line "getopts: Usage: getopts optstring var [arg...]" s)

/-- The name and value of an assignment among the arguments. -/
def splitAssignment (arg : String) : String × Option String :=
  let name := arg.toList.takeWhile (· != '=')
  (String.ofList name,
    if name.length < arg.length then some (String.ofList (arg.toList.drop (name.length + 1)))
    else none)

/-- Makes assignments among the arguments, and does something else with each variable. -/
def declareEach (word : String) (mark : String → ShellState → ShellState) : Builtin :=
  fun fds line args s =>
    match args with
    | [] => done 0 s
    | arg :: rest =>
      let (name, value) := splitAssignment arg
      if !isName name then breakOff fds line s!"{word}: {name}: bad variable name" s
      else if value.isSome && s.fixed.contains name then
        breakOff fds line s!"{word}: {name}: is read only" s
      else declareEach word mark fds line rest ((fun s => value.elim s (s.assign name))
        (mark name s))

/-- Lists variables as assignments. -/
def listVars (word : String) (names : List String) (fds : Descriptors) (s : ShellState) :
    ShellState :=
  names.foldl (fun s name =>
    let value := (s.vars.find? name).elim "" (fun v => "=" ++ singleQuotes v)
    s.onMachine (·.say fds s!"{word} {name}{value}\n")) s

/-- Lets programs see variables. -/
def exportVars : Builtin := fun fds line args s =>
  match args.filter (· != "-p") with
  | [] => done 0 (listVars "export" s.exported.keys fds s)
  | args => declareEach "export" (fun name s =>
      { s with exported := s.exported.insert name () }) fds line args s

/-- Keeps variables from changing. -/
def fixVars : Builtin := fun fds line args s =>
  match args.filter (· != "-p") with
  | [] => done 0 (listVars "readonly" s.fixed.keys fds s)
  | args =>
    match declareEach "readonly" (fun _ s => s) fds line args s with
    | (.next, s) =>
      let names := args.map (fun arg => (splitAssignment arg).1)
      done 0 { s with fixed := names.foldl (fun fixed name => fixed.insert name ()) s.fixed }
    | broken => broken

/-- Makes variables a function's own. -/
def ownVars : Builtin := fun fds line args s =>
  if s.outer.isNone then breakOff fds line "local: not in a function" s
  else declareEach "local" (fun name s =>
    let saved := s.outer.getD []
    if saved.any (fun (n, _) => n == name) then s
    else { s with outer := some ((name, s.vars.find? name) :: saved) }) fds line args s

/-- Removes variables, or functions. -/
def unset : Builtin := fun fds line args s =>
  let names := args.filter (fun a => a.toList.head? ≠ some '-')
  match names.find? (fun name => !isName name), names.find? s.fixed.contains with
  | some name, _ => breakOff fds line s!"unset: {name}: bad variable name" s
  | none, some name => breakOff fds line s!"unset: {name}: is read only" s
  | none, none =>
    done 0 (names.foldl (fun s name =>
      if args.contains "-f" then { s with functions := s.functions.erase name }
      else { s with vars := s.vars.erase name, exported := s.exported.erase name }) s)

/-! ## Ways -/

/-- The letters of ways that have names. -/
def longWays : List (String × Char) :=
  [("errexit", 'e'), ("noglob", 'f'), ("ignoreeof", 'I'), ("interactive", 'i'), ("monitor", 'm'),
    ("noexec", 'n'), ("stdin", 's'), ("xtrace", 'x'), ("verbose", 'v'), ("vi", 'V'),
    ("emacs", 'E'), ("noclobber", 'C'), ("allexport", 'a'), ("notify", 'b'), ("nounset", 'u')]

/-- Sets a way by its letter, or not. -/
def setWay (on : Bool) (letter : Char) (s : ShellState) : ShellState :=
  match letter with
  | 'e' => { s with stopOnFailure := on }
  | 'u' => { s with refuseUnset := on }
  | 'x' => { s with traced := on }
  | 'f' => { s with plainPatterns := on }
  | _ => s

/-- Sets a way by its name, or not. -/
def setNamed (on : Bool) (name : String) (s : ShellState) : Except String ShellState :=
  match longWays.find? (fun (n, _) => n == name) with
  | some (_, letter) => .ok (setWay on letter s)
  | none => .error ((if on then "-o " else "+o ") ++ name)

/-- Sets ways by their letters, or not. -/
def setLetters (on : Bool) (letters : List Char) (s : ShellState) : Except String ShellState :=
  match letters.find? (fun c => !longWays.any (fun (_, letter) => letter == c)) with
  | some c => .error ((if on then "-" else "+") ++ String.singleton c)
  | none => .ok (letters.foldl (fun s c => setWay on c s) s)

/-- Sets ways, and then the arguments of the script if there are more. -/
def setAll : List String → ShellState → Except String ShellState
  | [], s => .ok s
  | "--" :: rest, s => .ok (s.withArgs rest)
  | "-o" :: name :: rest, s => do setAll rest (← setNamed true name s)
  | "+o" :: name :: rest, s => do setAll rest (← setNamed false name s)
  | arg :: rest, s =>
    match arg.toList with
    | '-' :: c :: cs => do setAll rest (← setLetters true (c :: cs) s)
    | '+' :: c :: cs => do setAll rest (← setLetters false (c :: cs) s)
    | _ => .ok (s.withArgs (arg :: rest))

/-- Sets the ways of the shell, or the arguments of the script. -/
def set : Builtin := fun fds line args s =>
  match setAll args s with
  | .ok s => done 0 s
  | .error option => breakOff fds line s!"set: Illegal option {option}" s

/-- Writes which permissions new files do not have. -/
def umask : Builtin := fun fds _ args s =>
  done 0 (if args.isEmpty then s.onMachine (·.say fds "0022\n") else s)

/-- Succeeds, or not. -/
def constant (status : Nat) : Builtin := fun _ _ _ s => done status s

/-- The commands by name. -/
def all : List (String × Builtin) :=
  [(":", constant 0), ("true", constant 0), ("false", constant 1), ("exit", exit), ("cd", cd),
    ("pwd", pwd), ("echo", echo), ("printf", printf), ("test", test false), ("[", test true),
    ("kill", kill), ("read", read), ("getopts", getopts), ("export", exportVars), ("readonly", fixVars),
    ("local", ownVars), ("unset", unset), ("shift", shift), ("set", set), ("return", back),
    ("break", fromLoops "break" .leave), ("continue", fromLoops "continue" .again),
    ("wait", wait), ("trap", trap), ("umask", umask), ("hash", constant 0), ("jobs", constant 0),
    ("alias", constant 0), ("unalias", constant 0), ("ulimit", constant 0), ("times", constant 0)]

/-- The commands whose mistakes end the script. -/
def special : List String :=
  [".", ":", "break", "continue", "eval", "exec", "exit", "export", "readonly", "return", "set",
    "shift", "times", "trap", "unset"]

end Builtin

/-- The command of the shell of a name. -/
def builtin? (name : String) : Option Builtin :=
  (Builtin.all.find? (fun (n, _) => n == name)).map (·.2)

end Runbook.Shell
