import Runbook.Command.Outcome
import Runbook.Session.Pane
import Runbook.Shell.Process
import Runbook.Text.Blank

/-!
# Panes of a terminal multiplexer

The operations on panes by calls of the program `tmux`.

* `Tmux` is the program in a world of any kind: what a call does there is up to the world;
* `Tmux.call` is one call; a call that cannot be made or fails is a fault;
* `Tmux.driver` has the operations on panes;
* `Tmux.ofFiles` is the program among files.
-/

namespace Runbook.Session

/-- The program in a world. -/
structure Tmux (W : Type) where
  /-- Its name. -/
  binary : String
  /-- Runs it with arguments; a text says why it cannot start. -/
  run : List String → W → Except String Command.Outcome × W

namespace Tmux

variable {W : Type}

/-- What comes of a call: its output, or a fault. -/
def resultOf (binary : String) (args : List String) :
    Except String Command.Outcome → Except Fault String
  | .error reason => .error (.spawn
      s!"Failed to run '{binary}' - is tmux installed? Error: {reason}")
  | .ok outcome =>
    if outcome.success then .ok outcome.stdout
    else
      let verb := args.headD ""
      .error (.broken s!"tmux {verb} failed: {trimmed outcome.stderr}")

/-- Calls the program. -/
def call (t : Tmux W) (args : List String) (w : W) : Except Fault String × W :=
  let (result, w) := t.run args w
  (resultOf t.binary args result, w)

/-! ## The arguments of the calls -/

/-- The arguments that set an environment variable. -/
def envArguments (env : List (String × String)) : List String :=
  env.flatMap (fun (name, value) => ["-e", s!"{name}={value}"])

/-- The arguments that open a pane and print its name. -/
def openArguments (request : PaneRequest) : List String :=
  ["split-window", "-d", "-P", "-F", "#\x7bpane_id\x7d", "-c", request.cwd] ++
    envArguments request.env ++ [request.command]

/-- The arguments that keep a pane when its program has ended, so that it can still be read. -/
def keepArguments (pane : String) : List String :=
  ["set-option", "-p", "-t", pane, "remain-on-exit", "on"]

/-- The arguments that print the text of a pane. -/
def captureArguments (pane : String) : List String := ["capture-pane", "-p", "-J", "-t", pane]

/-- The arguments that print 1 if the program in a pane has ended. -/
def lookArguments (pane : String) : List String :=
  ["display-message", "-p", "-t", pane, "#\x7bpane_dead\x7d"]

/-- The arguments that close a pane. -/
def closeArguments (pane : String) : List String := ["kill-pane", "-t", pane]

/-! ## The operations -/

/-- Opens a pane that stays when its program has ended. -/
def openPane (t : Tmux W) (request : PaneRequest) (w : W) : Except Fault String × W :=
  match t.call (openArguments request) w with
  | (.error fault, w) => (.error fault, w)
  | (.ok printed, w) =>
    let pane := trimmed printed
    if pane.isEmpty then (.error (.broken "tmux returned no pane id"), w)
    else match t.call (keepArguments pane) w with
      | (.error fault, w) => (.error fault, w)
      | (.ok _, w) => (.ok pane, w)

/-- The text of a pane. -/
def capture (t : Tmux W) (pane : String) (w : W) : Except Fault String × W :=
  t.call (captureArguments pane) w

/-- Whether the program in a pane still runs. -/
def isAlive (t : Tmux W) (pane : String) (w : W) : Except Fault Bool × W :=
  let (printed, w) := t.call (lookArguments pane) w
  (printed.map (fun s => trimmed s ≠ "1"), w)

/-- Closes a pane. -/
def closePane (t : Tmux W) (pane : String) (w : W) : Except Fault Unit × W :=
  let (printed, w) := t.call (closeArguments pane) w
  (printed.map (fun _ => ()), w)

/-- An answer during which no report comes in. -/
def quietly {α : Type} (a : Except Fault α × W) : Answer W α := ⟨a.1, [], a.2⟩

/-- The operations on panes. -/
def driver (t : Tmux W) : PaneDriver W where
  openPane request _ w := quietly (t.openPane request w)
  capture pane _ w := quietly (t.capture pane w)
  isAlive pane _ w := quietly (t.isAlive pane w)
  closePane pane _ w := quietly (t.closePane pane w)

/-! ## Among files -/

/-- How many milliseconds a call may take. -/
def callLimit : Nat := 600000

/-- Runs the program among files, in their working directory. -/
def runAmong (binary : String) (env : List (String × String)) (args : List String)
    (files : FileSystem) : Except String Command.Outcome × FileSystem :=
  match Shell.spawn ⟨binary, args, ".", env, callLimit⟩ files with
  | .ok (outcome, files) => (.ok outcome, files)
  | .error reason => (.error reason, files)

/-- The program among files, in an environment. -/
def ofFiles (binary : String) (env : List (String × String)) : Tmux FileSystem :=
  ⟨binary, runAmong binary env⟩

end Tmux

end Runbook.Session
