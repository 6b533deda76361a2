import Runbook.Host
import Runbook.Json.Printer
import Runbook.Json.Reader
import Runbook.Project.Discovery
import Runbook.Run.Event
import Runbook.Session.Tmux

/-!
# The commands

What the commands of the command line do: run a workflow, check one, and list those of a project.

* `recordLine` and `reportValue` show a run: a line for each visit of a step, or the report as JSON;
* `readOverride` reads a variable given on the command line: a name, an equals sign and a value,
  which is the JSON value that it reads as, or else a text;
* `Shown` is what a command prints and how it ends;
* `compileFile` compiles the workflow in a file, `runConfig` has the settings of a run;
* `validate`, `list`, `execute` and `run` are the commands.
-/

namespace Runbook.Cli

/-! ## Showing reports -/

/-- The beginning of a text, with an ellipsis in the last place if it is not all of it. -/
def clip (limit : Nat) (s : String) : String :=
  if s.length ≤ limit then s else String.ofList (s.toList.take (limit - 1)) ++ "…"

/-- A text in one line. -/
def oneLine (s : String) : String := s.map (fun c => if c = '\n' then ' ' else c)

/-- The most characters of an error in a line. -/
def errorWidth : Nat := 100

/-- The most characters of an output in a line. -/
def outputWidth : Nat := 80

/-- The mark of a status. -/
def statusMark : StepStatus → String
  | .succeeded => "✓"
  | .skipped => "-"
  | .failed => "✗"

/-- The line for a visit. -/
def recordLine (r : StepRecord) : String :=
  let head := s!"  {statusMark r.status} {r.path}"
  match r.error with
  | some error => s!"{head}: {clip errorWidth error}"
  | none => if r.preview.isEmpty then head else s!"{head} → {clip outputWidth (oneLine r.preview)}"

/-- A visit as a value, with a time for its beginning and its end. -/
def recordValue (time : String) (r : StepRecord) : Value :=
  .ofFields [("step_name", .string r.path), ("status", .string r.status.name),
    ("output_preview", .string r.preview), ("error", .ofString? r.error),
    ("started_at", .string time), ("finished_at", .string time)]

/-- A report as a value, with a time for all its visits. -/
def reportValue (time : String) (r : Report) : Value :=
  .ofFields [("workflow", .string r.workflow), ("success", .bool r.success),
    ("error", .ofString? r.progress.error), ("steps", .array (r.records.map (recordValue time))),
    ("variables", .ofMap r.progress.vars)]

/-- The paths of the visits that failed. -/
def failedPaths (r : Report) : List String :=
  (r.records.filter (fun record => record.status = .failed)).map (·.path)

/-! ## What a command prints -/

/-- What a command prints, and its result or why it failed. -/
structure Shown (α : Type) where
  /-- What it prints. -/
  text : String
  /-- Its result. -/
  result : Except String α

/-- Printed lines as a text. -/
def linesText (lines : List String) : String := String.join (lines.map (· ++ "\n"))

/-- A command that fails before it prints anything. -/
def Shown.fail {α : Type} (failure : Failure) : Shown α := ⟨"", .error failure.text⟩

/-- What a workflow is run with. -/
structure RunOptions where
  /-- The overrides as they are given. -/
  overrides : List String := []
  /-- The port for the callback listener. -/
  port : Option Nat := none
  /-- Whether the report is shown as JSON. -/
  json : Bool := false
  deriving DecidableEq, Repr

/-- The commands run on a host without panes of its own. -/
abbrev Site := Host Unit

/-! ## Overrides -/

/-- Splits at the first equals sign. -/
def splitAtEquals? : List Char → Option (List Char × List Char)
  | [] => none
  | c :: rest =>
    if c = '=' then some ([], rest)
    else (splitAtEquals? rest).map (fun (name, value) => (c :: name, value))

/-- Reads an override, or words what is wrong with it. -/
def readOverride (raw : String) : Except String (String × Value) :=
  match splitAtEquals? raw.toList with
  | none => .error s!"Invalid variable '{raw}': expected KEY=VALUE"
  | some (name, value) =>
    let name := trim name
    if name.isEmpty then .error s!"Invalid variable '{raw}': empty name"
    else
      let text := String.ofList value
      .ok (String.ofList name, (Json.parse? text).getD (.string text))

/-! ## Compiling -/

/-- Compiles the workflow in a file; there are no adapters. -/
def compileFile (site : Site) (config : Config) (file : WorkflowFile) : Except Failure Workflow :=
  (site.compile [] config file.definition (some file.path) .empty).1

/-- The configuration of a run: that of the environment, and the port that is asked for. -/
def runConfig (site : Site) (projectDir : String) (port : Option Nat) : Config :=
  let config := Config.ofEnvironment (KeyMap.ofList site.env) projectDir
  match port with
  | some port => config.withCallbackPort port
  | none => config

/-! ## Checking -/

/-- The line for a step in a list. -/
def stepLine (number : Nat) (step : StepDefinition) : String :=
  s!"   {number}. {step.name} (tool: {step.tool.kind})"

/-- What is shown of a workflow that is as it should be. -/
def validLines (file : WorkflowFile) (w : Workflow) : List String :=
  let steps := file.definition.steps
  [s!"✅ Workflow '{w.name}' is valid", s!"   Version: {file.definition.version}",
    s!"   Steps: {w.body.length} ({Block.stepCount w.body} including nested)"] ++
    (steps.zipIdx 1).map (fun (step, i) => stepLine i step)

/-- Checks a workflow without running it. -/
def validate (site : Site) (projectDir selector : String) : Shown Unit :=
  match findWorkflow site.files projectDir selector with
  | .error failure => .fail failure
  | .ok file =>
    match compileFile site (.default projectDir) file with
    | .error failure => .fail failure
    | .ok w => ⟨linesText (validLines file w), .ok ()⟩

/-! ## Listing -/

/-- A text with spaces after it up to a width. -/
def padRight (width : Nat) (s : String) : String :=
  s ++ String.ofList (List.replicate (width - s.length) ' ')

/-- A text with spaces before it up to a width. -/
def padLeft (width : Nat) (s : String) : String :=
  String.ofList (List.replicate (width - s.length) ' ') ++ s

/-- The width of the column for names. -/
def nameWidth : Nat := 20

/-- The width of the column for numbers of steps. -/
def countWidth : Nat := 5

/-- The width of the column for descriptions. -/
def descriptionWidth : Nat := 32

/-- A row of the table. -/
def tableRow (name count description : String) : String :=
  "│ " ++ " │ ".intercalate [padRight nameWidth name, padLeft countWidth count,
    padRight descriptionWidth description] ++ " │"

/-- A line across the table, with the characters at its ends and between its columns. -/
def tableRule (first between last : String) : String :=
  first ++ between.intercalate ([nameWidth, countWidth, descriptionWidth].map (fun width =>
    String.ofList (List.replicate (width + 2) '─'))) ++ last

/-- The row for a workflow. -/
def fileRow (file : WorkflowFile) : String :=
  tableRow (clip nameWidth file.name) (toString file.stepCount)
    (clip descriptionWidth (file.definition.description.getD ""))

/-- The head of the table. -/
def tableHead : List String :=
  [tableRule "┌" "┬" "┐", tableRow "Name" "Steps" "Description", tableRule "├" "┼" "┤"]

/-- What is shown of the workflows of a project. -/
def listLines (projectDir : String) (files : List WorkflowFile) : List String :=
  [s!"Found {files.length} workflow(s) in '{workflowDir projectDir}'", ""] ++ tableHead ++
    files.map fileRow ++
    [tableRule "└" "┴" "┘", "",
      "Built-in shared steps: " ++ ", ".intercalate (Builtin.all.map (·.name))]

/-- Lists the workflows of a project. -/
def list (site : Site) (projectDir : String) : Shown Unit :=
  match discover site.files projectDir with
  | .error failure => .fail failure
  | .ok files => ⟨linesText (listLines projectDir files), .ok ()⟩

/-! ## Running -/

/-- What is shown of a workflow before it runs. -/
def loadedLines (file : WorkflowFile) : List String :=
  [s!"📄 Loaded workflow: {file.name} ({file.path})", s!"   {file.stepCount} step(s)", ""]

/-- The most looks at a pane. -/
def lookLimit : Nat := 1000000

/-- Runs a compiled workflow; panes are those of the terminal multiplexer. -/
def runCompiled (site : Site) (config : Config) (w : Workflow)
    (overrides : List (String × Value)) (directory : String) : Except String Report × Site :=
  let platform : Host.Platform Unit :=
    ⟨(Session.Tmux.ofFiles "tmux" site.env).driver.onFirst, .prompt, .insertion, lookLimit⟩
  match site.run platform config w overrides directory with
  | (some report, site) => (.ok report, site)
  | (none, site) => (.error s!"Workflow '{w.name}' does not end", site)

/-- Finds, compiles and runs a workflow, with a directory for long values. -/
def execute (site : Site) (projectDir selector : String) (options : RunOptions)
    (directory : String) : Shown Report × Site :=
  match options.overrides.mapM readOverride with
  | .error message => (⟨"", .error message⟩, site)
  | .ok overrides =>
    match findWorkflow site.files projectDir selector with
    | .error failure => (.fail failure, site)
    | .ok file =>
      let text := linesText (loadedLines file)
      let config := runConfig site projectDir options.port
      match compileFile site config file with
      | .error failure => (⟨text, .error failure.text⟩, site)
      | .ok w =>
        let (result, site) := runCompiled site config w overrides directory
        (⟨text, result⟩, site)

/-- What is shown of a run that is over. -/
def reportText (json : Bool) (time : String) (r : Report) : String :=
  linesText (if json then [(reportValue time r).pretty] else r.records.map recordLine)

/-- What is shown after the report, and how the command ends. -/
def conclusion (r : Report) : Shown Unit :=
  if r.success then
    ⟨linesText ["", s!"🎉 Workflow '{r.workflow}' completed successfully!"], .ok ()⟩
  else ⟨"", .error ("Workflow failed. Failed steps: " ++ ", ".intercalate (failedPaths r))⟩

/-- Runs a workflow and shows how it went. -/
def run (site : Site) (projectDir selector : String) (options : RunOptions)
    (directory time : String) : Shown Unit × Site :=
  let (shown, site) := execute site projectDir selector options directory
  match shown.result with
  | .error message => (⟨shown.text, .error message⟩, site)
  | .ok r =>
    let last := conclusion r
    (⟨shown.text ++ reportText options.json time r ++ last.text, last.result⟩, site)

end Runbook.Cli
