import Runbook.Run.Machine

/-!
# Histories of runs

A run that is watched: it does what a run does and keeps a history beside its world.

* `Moment` is something that happened to a step or a list of steps, and where the run stood then;
* `watchedAct` and `watchedStops` are `act` and `stopsOf` with the loops around each step told from
  outside to inside, and a moment noted when the turn of a step comes, when it is dispatched, when
  it has ended, and when a list of steps is left;
* `Workflow.watch` runs a workflow and keeps its history.
-/

namespace Runbook

/-- A loop step as the frame of its loop names it. -/
structure LoopTag where
  /-- The kind of the loop. -/
  kind : LoopKind
  /-- The name of the loop step. -/
  step : String
  /-- The position of the loop step in its list. -/
  entry : Nat
  deriving DecidableEq, Repr

/-- The loop step that a frame belongs to. -/
def Frame.tag (frame : Frame) : LoopTag := ⟨frame.kind, frame.step, frame.entry⟩

/-- Where a step stands in a run. -/
structure Place where
  /-- The path of the step. -/
  path : String
  /-- Its position in its list. -/
  index : Nat
  /-- The loops around it, the innermost first, those around shared steps with them. -/
  around : List LoopTag
  deriving DecidableEq, Repr

/-- A list of steps as part of a run. -/
structure ListPlace where
  /-- The path of the steps. -/
  scope : String
  /-- The loops around them, the innermost first. -/
  around : List LoopTag
  /-- Whether the list is the body of a loop. -/
  inLoop : Bool
  /-- The number of steps. -/
  length : Nat
  deriving DecidableEq, Repr

/-- What can happen in a run. -/
inductive Happening where
  /-- The turn of a step comes. -/
  | turn (place : Place)
  /-- A step is dispatched. -/
  | dispatched (place : Place)
  /-- A step that was dispatched has ended. -/
  | ended (place : Place) (result : Except Failure Value)
  /-- A list of steps is left without a failure; `index` is the position that was up. -/
  | left (list : ListPlace) (index : Nat)

/-- The loops around what happens, the innermost first. -/
def Happening.around : Happening → List LoopTag
  | .turn place | .dispatched place | .ended place _ => place.around
  | .left list _ => list.around

/-- Something that happened, and where the run stood. -/
structure Moment where
  /-- What happened. -/
  what : Happening
  /-- Where the run stood. -/
  progress : Progress

/-- What happened in a run, the last moment first. -/
abbrev History := List Moment

/-! ## Something beside the world -/

/-- Tools that do not touch what is kept beside their world. -/
def Tools.beside {W : Type} (tools : Tools W) (H : Type) : Tools (W × H) where
  shell command cwd limit w :=
    ((tools.shell command cwd limit w.1).1, (tools.shell command cwd limit w.1).2, w.2)
  program program args cwd limit w :=
    ((tools.program program args cwd limit w.1).1,
      (tools.program program args cwd limit w.1).2, w.2)
  session command cwd w :=
    ((tools.session command cwd w.1).1, (tools.session command cwd w.1).2, w.2)
  publish store w := (tools.publish store w.1, w.2)
  adapter name call vars w :=
    ((tools.adapter name call vars w.1).1, (tools.adapter name call vars w.1).2, w.2)

/-- A setting with room for a history. -/
def Setting.watched {W : Type} (env : Setting W) : Setting (W × History) where
  config := env.config
  defaults := env.defaults
  tools := env.tools.beside History
  sorter := env.sorter
  fuel := env.fuel

/-- A state with a history. -/
def RunState.beside {W : Type} (s : RunState W) (history : History) : RunState (W × History) where
  progress := s.progress
  records := s.records
  events := s.events
  attachments := s.attachments
  world := (s.world, history)

/-- A state without its history. -/
def RunState.forget {W : Type} (s : RunState (W × History)) : RunState W where
  progress := s.progress
  records := s.records
  events := s.events
  attachments := s.attachments
  world := s.world.1

namespace Run

variable {W : Type}

/-! ## Where lists of steps are left -/

/-- Visits the steps of a list from a position on; the result is the position at which the list
was left. -/
def leaveFrom (stops : List (Stop W)) (scope : String) : (fuel index : Nat) → Run W Nat
  | fuel, index =>
    match stops[index]? with
    | none => return index
    | some stop =>
      match fuel with
      | 0 => throw .outOfFuel
      | fuel + 1 => do
        if ← stop.visit scope index then
          match ← nextIndex stops scope stop.name index with
          | some j => leaveFrom stops scope fuel j
          | none => return index
        else leaveFrom stops scope fuel (index + 1)

/-! ## Watching -/

/-- Notes that something happens. -/
def note (what : Happening) : Run (W × History) Unit :=
  modify (fun s => { s with world := (s.world.1, ⟨what, s.progress⟩ :: s.world.2) })

/-- Dispatches a step, and notes when it begins and how it ends. -/
def watchDispatch (place : Place) (action : Run (W × History) Value) :
    Run (W × History) Value := do
  note (.dispatched place)
  match ← attempt action with
  | .ok output =>
    note (.ended place (.ok output))
    return output
  | .error failure =>
    note (.ended place (.error failure))
    fail failure

/-- Runs a list of steps, and notes where it is left. -/
def watchList (inLoop : Bool) (around : List LoopTag) (stops : List (Stop (W × History)))
    (scope : String) (fuel : Nat) : Run (W × History) Unit := do
  let index ← leaveFrom stops scope fuel 0
  note (.left ⟨scope, around, inLoop, stops.length⟩ index)

mutual

/-- Does what an action says; `around` are the loops around its step. -/
def watchedAct (env : Setting W) (around : List LoopTag) (step : Step Unit) :
    Action → (path : String) → (index : Nat) → Run (W × History) Value
  | .foreach loop body, path, index =>
    foreachLoop env.sorter ⟨step.name, index, path⟩ loop
      (watchList true (⟨.iteration, step.name, index⟩ :: around)
        (watchedStops env (⟨.iteration, step.name, index⟩ :: around) body) path env.fuel)
  | .whilst loop body, path, index =>
    whileLoop ⟨step.name, index, path⟩ loop
      (watchList true (⟨.whilst, step.name, index⟩ :: around)
        (watchedStops env (⟨.whilst, step.name, index⟩ :: around) body) path env.fuel)
  | .range loop body, path, index =>
    rangeLoop ⟨step.name, index, path⟩ loop
      (watchList true (⟨.range, step.name, index⟩ :: around)
        (watchedStops env (⟨.range, step.name, index⟩ :: around) body) path env.fuel)
  | .retry loop body, path, index =>
    retryLoop ⟨step.name, index, path⟩ loop
      (watchList true (⟨.retry, step.name, index⟩ :: around)
        (watchedStops env (⟨.retry, step.name, index⟩ :: around) body) path env.fuel)
  | .shared ⟨_, signature, body, _⟩ inputs outputs, path, _ =>
    runShared step path signature inputs outputs
      (watchList false around (watchedStops env around body) path env.fuel)
  | action, path, index => act env.watched step action path index

/-- Makes a step ready to be visited. -/
def watchedStop (env : Setting W) (around : List LoopTag) : Step Action → Stop (W × History)
  | ⟨name, condition, onError, outputVar, visible, cwd, model, action⟩ =>
    let step : Step Unit := ⟨name, condition, onError, outputVar, visible, cwd, model, ()⟩
    ⟨name, fun scope index => do
      note (.turn ⟨stepPath scope name, index, around⟩)
      visit step (fun path index =>
        watchDispatch ⟨path, index, around⟩ (watchedAct env around step action path index))
        scope index⟩

/-- Makes steps ready to be visited. -/
def watchedStops (env : Setting W) (around : List LoopTag) :
    List (Step Action) → List (Stop (W × History))
  | [] => []
  | step :: rest => watchedStop env around step :: watchedStops env around rest

end

end Run

/-- Runs a workflow and keeps its history. -/
def Workflow.watch {W : Type} (w : Workflow) (env : Setting W)
    (overrides : List (String × Value)) (directory : String) (world : W) :
    Except Halt Unit × RunState (W × History) :=
  let env := { env with defaults := w.defaults }
  Run.watchList false [] (Run.watchedStops env [] w.body) "" env.fuel
    ((w.start env.config overrides directory world).beside [])

/-- What happened in a run of a workflow, the last moment first. -/
def Workflow.history {W : Type} (w : Workflow) (env : Setting W)
    (overrides : List (String × Value)) (directory : String) (world : W) : History :=
  (w.watch env overrides directory world).2.world.2

end Runbook
