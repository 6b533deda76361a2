import Runbook.Definition.Decoder
import Runbook.Failure
import Runbook.Project.Glob
import Runbook.Sorting

/-!
# Finding workflows

A project keeps its workflows in files below a directory of its own, and each is selected by the
path of its file, its name, or the name of its file without the ending.

* `loadWorkflow` reads the workflow in a file;
* `discover` lists the workflows of a project, sorted by name; a file that does not read as one is
  passed over;
* `findWorkflow` is the workflow that a selector selects: the first that a path leads to, or else
  the first in the list that has the selector as its name or its file as its name.
-/

namespace Runbook

/-- Reads the workflow in a file. -/
def loadWorkflow (fs : FileSystem) (path : String) : Except Failure Definition :=
  match fs.readText path with
  | .error reason => .error (.io s!"Failed to read workflow file '{path}': {reason}")
  | .ok text =>
    match Definition.ofYaml? text with
    | some d => .ok d
    | none => .error (.parse s!"Failed to parse workflow file '{path}'")

/-- A workflow in a file of its own. -/
structure WorkflowFile where
  /-- Its path. -/
  path : String
  /-- The workflow. -/
  definition : Definition

namespace WorkflowFile

/-- The name of the workflow. -/
def name (file : WorkflowFile) : String := file.definition.name

/-- The number of its steps, without those inside loops. -/
def stepCount (file : WorkflowFile) : Nat := file.definition.steps.length

/-- The name of the file without its ending. -/
def stem (file : WorkflowFile) : String := (Path.stem? file.path).getD ""

/-- Whether a selector selects it. -/
def answersTo (file : WorkflowFile) (selector : String) : Bool :=
  file.name == selector || file.stem == selector

/-- The workflow in a file, if it has one. -/
def ofPath? (fs : FileSystem) (path : String) : Option WorkflowFile :=
  match loadWorkflow fs path with
  | .ok d => some ⟨path, d⟩
  | .error _ => none

end WorkflowFile

/-- Where a project keeps its workflows. -/
def workflowDir (projectDir : String) : String := Path.join projectDir ".cadence/workflows"

/-- The pattern for the files with an ending. -/
def workflowPattern (projectDir ending : String) : String :=
  s!"{workflowDir projectDir}/**/*.{ending}"

/-- The files with an ending among those of a project. -/
def workflowPaths (fs : FileSystem) (projectDir ending : String) : Except Failure (List String) :=
  let pattern := workflowPattern projectDir ending
  (Glob.paths fs pattern).mapError (fun fault =>
    .io s!"Invalid glob '{pattern}': {fault.text}")

/-- The workflows of a project, sorted by name. -/
def discover (fs : FileSystem) (projectDir : String) : Except Failure (List WorkflowFile) := do
  if !fs.isDirectory (workflowDir projectDir) then return []
  let paths ← ["yaml", "yml"].mapM (workflowPaths fs projectDir)
  return insertionSort (fun a b => a.name < b.name)
    (paths.flatten.filterMap (WorkflowFile.ofPath? fs))

/-- The paths that a selector may be, as they are tried. -/
def selectorPaths (projectDir selector : String) : List String :=
  [selector, Path.join projectDir selector]

/-- The workflow that a selector selects. -/
def findWorkflow (fs : FileSystem) (projectDir selector : String) :
    Except Failure WorkflowFile := do
  match (selectorPaths projectDir selector).find? fs.isFile with
  | some path => return ⟨path, ← loadWorkflow fs path⟩
  | none =>
    match (← discover fs projectDir).find? (·.answersTo selector) with
    | some file => return file
    | none =>
      throw (.workflowNotFound s!"'{selector}' (searched {workflowDir projectDir})")

end Runbook
