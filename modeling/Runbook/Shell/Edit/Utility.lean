import Runbook.Shell.CallOptions
import Runbook.Shell.Edit.Reader
import Runbook.Shell.Edit.Run

/-!
# The program that edits streams

* `sed` reads a script from its arguments, and runs it on its operands or on its input.
-/

namespace Runbook.Shell

namespace Utility

open Edit

/-- The options of `sed`. -/
def sedOptions : OptionSet where
  flags := "nErsuz"
  valued := "efl"
  optional := "i"
  words := [("expression", 'e'), ("file", 'f'), ("quiet", 'n'), ("silent", 'n'),
    ("regexp-extended", 'E'), ("separate", 's'), ("in-place", 'i'), ("unbuffered", 'u'),
    ("null-data", 'z'), ("line-length", 'l')]

/-- How `sed` is called. -/
def sedUsage : String :=
  "Usage: sed [OPTION]... \x7bscript-only-if-no-other-script\x7d [input-file]..."

/-- Why `sed` cannot run. -/
inductive SedFault where
  /-- A script that is no file. -/
  | noScript (path reason : String)
  /-- A mistake in a script: the number of the script, and that of the last character read. -/
  | mistake (expression char : Nat) (fault : Edit.Fault)
  /-- There is no place of a name. -/
  | noLabel (name : String)
  /-- There are no files to edit in place. -/
  | noFiles

/-- How the fault is told. -/
def SedFault.message : SedFault → String
  | .noScript path reason => s!"couldn't open file {path}: {reason}"
  | .mistake expression char fault =>
    s!"-e expression #{expression}, char {char}: " ++ fault.message
  | .noLabel name => "can't find label for jump to " ++ Edit.quoted name
  | .noFiles => "no input files"

/-- The exit code of the fault. -/
def SedFault.code : SedFault → Nat
  | .mistake _ _ _ => 1
  | _ => 4

/-- Which script a character lies in, and the number of the character there; the scripts are joined
by line ends. -/
def placeIn : (expression place : Nat) → List (List Char) → Nat × Nat
  | expression, place, [] | expression, place, [_] => (expression, place)
  | expression, place, script :: rest =>
    if place ≤ script.length then (expression, place)
    else placeIn (expression + 1) (place - script.length - 1) rest

/-- The scripts among the options, in order. -/
def scriptsOf (fs : FileSystem) : List (Char × String) → Except SedFault (List (List Char))
  | [] => .ok []
  | ('e', text) :: rest => do return ofBytes (Utf8.encode text) :: (← scriptsOf fs rest)
  | ('f', path) :: rest =>
    match fs.readBytes path with
    | .error fault => .error (.noScript path fault.reason)
    | .ok bytes => do
      let cs := ofBytes bytes
      let cs := if cs.getLast? = some '\n' then cs.dropLast else cs
      return cs :: (← scriptsOf fs rest)
  | _ :: rest => scriptsOf fs rest

/-- The name of a place that a step goes to, but that there is not. -/
def missingLabel? (steps : List Edit.Step) : Option String :=
  steps.findSome? (fun step =>
    match step.action with
    | .jump (some name) | .jumpIf _ (some name) =>
      if steps.any (fun other => other.action == .label name) then none else some name
    | _ => none)

/-- Reads the steps of scripts. -/
def readScripts (extended : Bool) (scripts : List (List Char)) : Except SedFault (List Edit.Step) :=
  let script := ['\n'].intercalate scripts
  match Edit.Step.readAll extended script with
  | .error ⟨fault, left⟩ =>
    let (expression, char) := match left with
      | none => (1, 0)
      | some left => placeIn 1 (script.length - left) scripts
    .error (.mistake expression char fault)
  | .ok steps =>
    match missingLabel? steps with
    | some name => .error (.noLabel name)
    | none => .ok steps

/-- Whether a script begins with a comment that makes it quiet. -/
def isQuietScript (script : List Char) : Bool := ['#', 'n'].isPrefixOf script

/-- The targets of the files that a script writes to, which are emptied. -/
def openWritten (fds : Descriptors) : List String → Machine → List (String × Target) × Machine
  | [], m => ([], m)
  | path :: rest, m =>
    let (target, m) :=
      if path = "/dev/stdout" then (Machine.target fds 1, m)
      else if path = "/dev/stderr" then (Machine.target fds 2, m)
      else match m.openOutput path true with
        | .ok opened => opened
        | .error _ => (.nothing, m)
    let (more, m) := openWritten fds rest m
    ((path, target) :: more, m)

/-- How many steps a script takes at most before it counts as one that never ends. -/
def mostSteps : Nat := 4000000

/-- When a program that never ends would be done, in milliseconds. -/
def never : Nat := 1000000000000

/-- Runs a script on lines; the exit code if it has ended them all, and else whether it goes on with
the next lines. -/
def runScript (call : Call) (setting : Setting) (output : Target) (files : List (String × Target))
    (lines : List InputLine) (m : Machine) : Option Nat × Machine :=
  match Edit.run setting mostSteps (Work.start setting m output files lines) with
  | none => (some 1, { m with clock := m.clock + never })
  | some (.fault fault w) =>
    (some 1, complain call w.machine (SedFault.mistake 1 0 fault).message)
  | some (.done code w) =>
    (if code = 0 && w.left.isEmpty then none else some code, w.machine)

/-- Edits files one by one, each from its own first line on; `put` takes in what each has become. -/
def editEach (call : Call) (setting : Setting) (files : List (String × Target))
    (put : String → List UInt8 → List UInt8 → Machine → Machine) :
    List (String × List UInt8) → Machine → Nat × Machine
  | [], m => (0, m)
  | (path, bytes) :: rest, m =>
    let (index, m) := m.addOutput
    let (code, m) := runScript call setting (.output index) files
      (linesOf path setting.ending (ofBytes bytes)) m
    let m := put path bytes (m.collected index) m
    match code with
    | some code => (code, m)
    | none => editEach call setting files put rest m

/-- The name of the copy that is kept of a file before it is edited: a suffix, or a name in which a
star stands for that of the file. -/
def backupName (suffix path : String) : String :=
  if suffix.toList.contains '*' then
    String.ofList (suffix.toList.flatMap (fun c => if c = '*' then path.toList else [c]))
  else path ++ suffix

/-- Puts a file in the place of another. -/
def putFile (path : String) (bytes : List UInt8) (m : Machine) : Machine :=
  match m.files.write path bytes with
  | .ok files => { m with files }
  | .error _ => m

/-- Runs a script on the operands, or on the input. -/
def runOn (call : Call) (p : Parted) (steps : List Edit.Step) (isQuiet : Bool) (operands : List String)
    (m : Machine) : Nat × Machine :=
  let width := ((p.arg? 'l').bind (fun n => Decimal.readNat? n.toList)).getD 70
  let setting : Setting := ⟨steps, isQuiet, if p.has 'z' then '\x00' else '\n', width⟩
  let (files, m) := openWritten call.fds (writtenFiles steps) m
  let isPlain (path : String) : Bool := path = "-" || !m.files.isDirectory path
  let directory := operands.find? (fun path => !isPlain path)
  let (parts, fine, m) := readOperands call (orInput (operands.takeWhile isPlain)) m
  let parts := if operands.isEmpty || !(operands.takeWhile isPlain).isEmpty then parts else []
  let output := Machine.target call.fds 1
  let (code, m) :=
    if p.has 'i' then
      let suffix := (p.arg? 'i').getD ""
      editEach call setting files (fun path old new m =>
        putFile path new (if suffix.isEmpty then m else putFile (backupName suffix path) old m))
        parts m
    else if p.has 's' then
      editEach call setting files (fun _ _ new m => m.write output new) parts m
    else
      let lines := parts.flatMap (fun (path, bytes) =>
        linesOf path setting.ending (ofBytes bytes))
      let (code, m) := runScript call setting output files lines m
      (code.getD 0, m)
  match directory with
  | none => (if code = 0 && !fine then 2 else code, m)
  | some path =>
    if p.has 'i' then (4, complain call m s!"couldn't edit {path}: not a regular file")
    else (4, complain call m s!"read error on {path}: Is a directory")

/-- Edits lines, and writes them or puts them back where they were read. -/
def sed : Utility := fun call m =>
  match sedOptions.read call.args with
  | .error fault => (1, m.complain call.fds s!"sed: {fault.message}\n{sedUsage}")
  | .ok p =>
    let given := p.has 'e' || p.has 'f'
    let p := if given then p else ⟨p.options ++ (p.operands.take 1).map (('e', ·)), p.operands.drop 1⟩
    if !p.has 'e' && !p.has 'f' then (1, m.complain call.fds sedUsage)
    else
      let read := do
        let scripts ← scriptsOf m.files p.options
        if p.has 'i' && p.operands.isEmpty then throw SedFault.noFiles
        return (scripts, ← readScripts (p.has 'E' || p.has 'r') scripts)
      match read with
      | .error fault => (fault.code, complain call m fault.message)
      | .ok (scripts, steps) =>
        runOn call p steps (p.has 'n' || scripts.head?.any isQuietScript) p.operands m

end Utility

end Runbook.Shell
