import Runbook.Definition.Decoder
import Runbook.Failure
import Runbook.Project.FileNode
import Runbook.Shared.Builtin
import Runbook.Text.Blank

/-!
# Libraries of shared steps

Where references to shared steps lead.  A reference names a built-in shared step (`builtin:name`),
one of the project (`project:name`), a file relative to the file that holds the reference
(`./path` or `../path`), or, by a bare name, one of the project or else a built-in one.

* `Reference` is what a reference leads to: a key, the same for all ways to it, and a place;
* `Library` finds and loads shared steps;
* `Library.ofFiles` is the library of a project among files.
-/

namespace Runbook

/-- The place of a shared step. -/
inductive SharedSource where
  /-- It is built in. -/
  | builtin (name : String)
  /-- It lies in a file. -/
  | file (path : String)
  deriving DecidableEq, Repr

/-- What a reference leads to. -/
structure Reference where
  /-- What all references to the same shared step have in common. -/
  key : String
  /-- Its place. -/
  source : SharedSource
  deriving DecidableEq, Repr

/-- Finds and loads shared steps. -/
structure Library where
  /-- The directory in which the references of a workflow without a file begin. -/
  projectDir : String
  /-- Where a reference that stands in a file of a directory leads. -/
  resolve : (reference origin : String) → Except Failure Reference
  /-- The shared step at a place. -/
  load : Reference → Except Failure SharedDefinition

namespace Reference

/-- The directory in which the references inside a shared step begin. -/
def origin (r : Reference) (projectDir : String) : String :=
  match r.source with
  | .builtin _ => projectDir
  | .file path => (Path.parent? path).getD projectDir

/-- A reference to a built-in shared step. -/
def builtin? (name : String) : Option Reference :=
  (Builtin.find? name).map (fun d => ⟨"builtin:" ++ d.name, .builtin d.name⟩)

/-- A reference to a file, which the key names by its full path.  The names of files are texts here,
that is valid UTF-8, so the path is told by its text in full and no character of it is replaced. -/
def ofFile (fs : FileSystem) (path : String) : Except Failure Reference :=
  match fs.canonical path with
  | .ok full => .ok ⟨full, .file full⟩
  | .error fault => .error (.io s!"Failed to resolve '{path}': {fault.text}")

end Reference

namespace Library

/-- Where a project keeps its shared steps. -/
def sharedDir : String := ".cadence/shared"

/-- The endings of files with definitions, the preferred one first. -/
def endings : List String := ["yaml", "yml"]

/-- The file of a shared step of a project. -/
def projectFile? (fs : FileSystem) (projectDir name : String) : Option String :=
  (endings.map (fun ending =>
    Path.join (Path.join projectDir sharedDir) s!"{name}.{ending}")).find? fs.isFile

/-- The rest of a text after a beginning. -/
def after? : List Char → List Char → Option (List Char)
  | [], cs => some cs
  | _ :: _, [] => none
  | a :: as, c :: cs => if a = c then after? as cs else none

/-- Where a reference without blanks around it leads, in a project among files. -/
def lookUp (fs : FileSystem) (projectDir reference origin : String) : Except Failure Reference :=
  let missing : Except Failure Reference := .error (.sharedNotFound reference)
  let cs := reference.toList
  match after? "builtin:".toList cs, after? "project:".toList cs with
  | some name, _ =>
    match Reference.builtin? (String.ofList name) with
    | some r => .ok r
    | none => missing
  | none, some name =>
    match projectFile? fs projectDir (String.ofList name) with
    | some path => Reference.ofFile fs path
    | none => missing
  | none, none =>
    if (after? "./".toList cs).isSome || (after? "../".toList cs).isSome then
      let path := Path.join origin reference
      if fs.isFile path then Reference.ofFile fs path else missing
    else match projectFile? fs projectDir reference, Reference.builtin? reference with
      | some path, _ => Reference.ofFile fs path
      | none, some r => .ok r
      | none, none => missing

/-- Reads the shared step of a file. -/
def loadFile (fs : FileSystem) (path : String) : Except Failure SharedDefinition :=
  match fs.readText path with
  | .error reason => .error (.io s!"Failed to read shared step '{path}': {reason}")
  | .ok text =>
    match SharedDefinition.ofYaml? text with
    | some d => .ok d
    | none => .error (.parse s!"Failed to parse shared step '{path}'")

/-- The library of a project among files. -/
def ofFiles (fs : FileSystem) (projectDir : String) : Library where
  projectDir := projectDir
  resolve reference origin := lookUp fs projectDir (trimmed reference) origin
  load r :=
    match r.source with
    | .file path => loadFile fs path
    | .builtin name =>
      match Builtin.find? name with
      | some d => .ok d
      | none => .error (.sharedNotFound r.key)

end Library

end Runbook
