import Runbook.Adapter
import Runbook.Run.Machine
import Runbook.Session.Interactive
import Runbook.Shell.Process
import Runbook.Workflow.Compile

/-!
# Hosts

Where workflows run: a tree of files, an environment, panes, and a listener that is started for the
first session of a run.

* `Host.shell` and `Host.program` run commands among the files;
* `Host.Platform` is what a host leaves to others, and `Host.session` runs a command in a pane;
* `Host.tools` has all that the steps of a run reach;
* `Host.compile` and `Host.run` compile and run workflows.
-/

namespace Runbook

/-- Where workflows run, with panes in a world of type `P`. -/
structure Host (P : Type) where
  /-- The files. -/
  files : FileSystem
  /-- What the environment of commands has besides the usual. -/
  env : List (String × String)
  /-- The listener, once it has been started. -/
  listener : Option Callback.Listener
  /-- The panes. -/
  panes : P

namespace Host

variable {P : Type}

/-- A host before the first run. -/
def start (files : FileSystem) (env : List (String × String)) (panes : P) : Host P :=
  ⟨files, env, none, panes⟩

/-! ## Commands -/

/-- Starts a program and waits for it. -/
def spawn (start : Shell.Start) (h : Host P) : Except String Command.Outcome × Host P :=
  let start := { start with env := h.env ++ start.env }
  match Shell.spawn start h.files with
  | .ok (outcome, files) => (.ok outcome, { h with files })
  | .error reason => (.error (Shell.spawnFault start reason), h)

/-- Runs a shell command. -/
def shell (command cwd : String) (limit : Nat) (h : Host P) :
    Except String Command.Outcome × Host P :=
  h.spawn (Shell.shellStart command cwd [] limit)

/-- Runs a program. -/
def program (program : String) (args : List String) (cwd : String) (limit : Nat) (h : Host P) :
    Except String Command.Outcome × Host P :=
  h.spawn ⟨program, args, cwd, [], limit⟩

/-! ## Sessions -/

/-- The port that is taken when any will do. -/
def anyPort : Nat := 32768

/-- The secret of a run. -/
def runToken : String := "token"

/-- The listener, which is started if it has not been; nothing reaches it from outside. -/
def listen (config : Config) (h : Host P) : Except Session.Fault Callback.Listener :=
  match h.listener with
  | some listener => .ok listener
  | none => do
    let port ← Callback.choosePort (fun _ => false) (some anyPort) config.callbackPort
      config.portSpan
    return .start port runToken false

/-- What a host leaves to others. -/
structure Platform (P : Type) where
  /-- The operations on panes. -/
  driver : Session.PaneDriver (FileSystem × P)
  /-- What happens between them. -/
  schedule : Session.Schedule (FileSystem × P)
  /-- How items are sorted. -/
  sorter : Sorter
  /-- The most looks at a pane. -/
  looks : Nat

/-- Runs a command in a pane. -/
def session (platform : Platform P) (config : Config) (command cwd : String) (h : Host P) :
    Option (Except Session.Fault Session.Outcome) × Host P :=
  match h.listen config with
  | .error fault => (some (.error fault), h)
  | .ok listener =>
    let (result, stage) := Session.runInteractive platform.driver platform.schedule
      ⟨config.pollInterval, config.quietPeriod⟩ platform.looks command cwd
      ⟨listener, h.files, h.panes⟩
    (result, { h with files := stage.world.1, listener := some stage.listener,
                      panes := stage.world.2 })

/-! ## Workflows -/

/-- Puts the files with long values among the others. -/
def publish (store : Attachments) (h : Host P) : Host P :=
  { h with files := store.files.entries.foldl (fun fs (name, text) =>
      fs.put (Path.join store.directory name) (.file (Utf8.encode text) false)) h.files }

/-- What the steps of a run reach. -/
def tools (platform : Platform P) (config : Config) : Tools (Host P) where
  shell := shell
  program := program
  session := session platform config
  publish := publish
  adapter name call vars h := (Adapter.invoke name call vars, h)

/-- Compiles a definition that may come from a file, with the adapters of these names. -/
def compile (adapters : List String) (config : Config) (d : Definition) (source : Option String)
    (state : CompileState) (h : Host P) : Except Failure Workflow × CompileState :=
  (d.compile source ⟨adapters, .ofFiles h.files config.projectDir, config.maxSharedDepth⟩).run.run
    state

/-- The most visits of steps between entering a list of steps and leaving it. -/
def visitLimit : Nat := 1000000

/-- What holds during a run. -/
def setting (platform : Platform P) (config : Config) (defaults : Defaults) : Setting (Host P) :=
  ⟨config, defaults, tools platform config, platform.sorter, visitLimit⟩

/-- Runs a workflow, with a directory for long values that is gone afterwards. -/
def run (platform : Platform P) (config : Config) (w : Workflow)
    (overrides : List (String × Value)) (directory : String) (h : Host P) :
    Option Report × Host P :=
  let (report, h) := w.run (setting platform config w.defaults) overrides directory
    { h with listener := none }
  (report, { h with files := h.files.clear directory })

end Host

end Runbook
