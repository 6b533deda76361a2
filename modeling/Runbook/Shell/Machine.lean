import Runbook.Project.FileNode
import Runbook.Shell.Syntax

/-!
# What commands share

The files, channels and clock that all commands of a script work with.

* `Target` is what a descriptor leads to;
* `Machine.write` and `Machine.readAll` write to and read from a target;
* `Machine.openFile` opens a file for a redirection.
-/

namespace Runbook.Shell

/-- What a descriptor leads to. -/
inductive Target where
  /-- Bytes to read. -/
  | input (index : Nat)
  /-- A place that collects bytes. -/
  | output (index : Nat)
  /-- A file to write to. -/
  | file (place : List String)
  /-- Nothing to read, and all that is written is lost. -/
  | nothing
  /-- Nothing at all. -/
  | closed
  deriving DecidableEq, Repr

/-- What the descriptors lead to. -/
abbrev Descriptors := List (Nat × Target)

/-- The files, channels and clock. -/
structure Machine where
  /-- The files, and the working directory. -/
  files : FileSystem
  /-- The bytes that are left to read. -/
  inputs : List (List UInt8)
  /-- The bytes that were collected, the last one first. -/
  outputs : List (List UInt8)
  /-- How many milliseconds have gone by. -/
  clock : Nat
  /-- When the last command in the background will be done. -/
  lingering : Nat

namespace Machine

/-- The path of the file that is always empty. -/
def nullPath : String := "/dev/null"

/-- The path of the file that never ends, and holds zeros. -/
def zeroPath : String := "/dev/zero"

/-- As many zeros as anything reads. -/
def zeros : List UInt8 := List.replicate 0x40000 0

/-- Adds a place that collects bytes. -/
def addOutput (m : Machine) : Nat × Machine :=
  (m.outputs.length, { m with outputs := m.outputs ++ [[]] })

/-- Adds bytes to read. -/
def addInput (m : Machine) (bytes : List UInt8) : Nat × Machine :=
  (m.inputs.length, { m with inputs := m.inputs ++ [bytes] })

/-- The bytes that a place has collected, in order. -/
def collected (m : Machine) (index : Nat) : List UInt8 := ((m.outputs[index]?).getD []).reverse

/-- Adds bytes to a file. -/
def appendTo (fs : FileSystem) (place : List String) (bytes : List UInt8) : FileSystem :=
  match fs.get? place with
  | some (.file content executable) => fs.set place (some (.file (content ++ bytes) executable))
  | _ => fs

/-- Writes bytes. -/
def write (m : Machine) (target : Target) (bytes : List UInt8) : Machine :=
  match target with
  | .output index => { m with outputs := m.outputs.modify index (bytes.reverse ++ ·) }
  | .file place => { m with files := appendTo m.files place bytes }
  | .input _ | .nothing | .closed => m

/-- What a descriptor leads to. -/
def target (fds : Descriptors) (descriptor : Nat) : Target :=
  ((fds.find? (fun (n, _) => n == descriptor)).map (·.2)).getD .closed

/-- Writes bytes to a descriptor. -/
def writeTo (m : Machine) (fds : Descriptors) (descriptor : Nat) (bytes : List UInt8) : Machine :=
  m.write (target fds descriptor) bytes

/-- Writes a text to the output. -/
def say (m : Machine) (fds : Descriptors) (text : String) : Machine :=
  m.writeTo fds 1 (Utf8.encode text)

/-- Writes a line to the error output. -/
def complain (m : Machine) (fds : Descriptors) (text : String) : Machine :=
  m.writeTo fds 2 (Utf8.encode (text ++ "\n"))

/-- The bytes that are left to read. -/
def remaining (m : Machine) (target : Target) : List UInt8 :=
  match target with
  | .input index => (m.inputs[index]?).getD []
  | _ => []

/-- Says what is left to read. -/
def leave (m : Machine) (target : Target) (bytes : List UInt8) : Machine :=
  match target with
  | .input index => { m with inputs := m.inputs.set index bytes }
  | _ => m

/-- Reads all that is left. -/
def readAll (m : Machine) (target : Target) : List UInt8 × Machine :=
  (m.remaining target, m.leave target [])

/-- The line that bytes begin with, whether it has an end, and the bytes after it; unless the line
is `raw`, a backslash keeps a line end from ending it, and both are left out. -/
def splitLine (raw : Bool) : List UInt8 → List UInt8 × Bool × List UInt8
  | [] => ([], false, [])
  | [b] => if b = 10 then ([], true, []) else ([b], false, [])
  | b :: c :: rest =>
    if b = 10 then ([], true, c :: rest)
    else if b = 92 && !raw then
      let (line, ended, left) := splitLine raw rest
      (if c = 10 then line else b :: c :: line, ended, left)
    else
      let (line, ended, left) := splitLine raw (c :: rest)
      (b :: line, ended, left)

/-- Reads a line, without its end, and tells whether it has one. -/
def readLine (m : Machine) (raw : Bool) (target : Target) : List UInt8 × Bool × Machine :=
  let (line, ended, left) := splitLine raw (m.remaining target)
  (line, ended, m.leave target left)

/-- Why a redirection cannot open a file. -/
def openFault (kind : RedirectKind) (path : String) (fault : PathFault) : String :=
  match kind, fault with
  | .input, .notFound => s!"cannot open {path}: No such file"
  | .input, fault => s!"cannot open {path}: {fault.reason}"
  | _, .notFound => s!"cannot create {path}: Directory nonexistent"
  | _, fault => s!"cannot create {path}: {fault.reason}"

/-- Opens a file to read. -/
def openInput (m : Machine) (path : String) : Except String (Target × Machine) :=
  if path = nullPath then .ok (.nothing, m)
  else if path = zeroPath then
    let (index, m) := m.addInput zeros
    .ok (.input index, m)
  else match m.files.locate path with
    | .error fault => .error (openFault .input path fault)
    | .ok place =>
      match m.files.get? place with
      | some (.file content _) =>
        let (index, m) := m.addInput content
        .ok (.input index, m)
      | _ => .ok (.nothing, m)

/-- Opens a file to write, from its beginning or after its end. -/
def openOutput (m : Machine) (path : String) (fromStart : Bool) :
    Except String (Target × Machine) :=
  if path = nullPath || path = zeroPath then .ok (.nothing, m)
  else
    let opened : Except PathFault (List String × FileNode) := do
      let place ← m.files.placeFor path
      match m.files.get? place with
      | some (.directory _) => throw .isDirectory
      | some (.file content executable) =>
        return (place, .file (if fromStart then [] else content) executable)
      | none => return (place, .file [] false)
    match opened with
    | .error fault => .error (openFault .output path fault)
    | .ok (place, node) => .ok (.file place, { m with files := m.files.set place (some node) })

/-- Opens a file for a redirection; a text that stands in the script is opened itself. -/
def openFile (m : Machine) (kind : RedirectKind) (path : String) :
    Except String (Target × Machine) :=
  match kind with
  | .input => m.openInput path
  | .output => m.openOutput path true
  | .append | .copy => m.openOutput path false
  | .document =>
    let (index, m) := m.addInput (Utf8.encode path)
    .ok (.input index, m)

end Machine

end Runbook.Shell
