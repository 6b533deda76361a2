import Runbook.Attachment
import Runbook.Condition
import Runbook.Run.Event

/-!
# The state of a run

* `RunState` is what a run changes as it goes;
* `Run` is a part of a run, which ends with a result or a halt;
* `Run.attempt` turns a failure into a result, and `Run.closing` does something at the end of a part
  whatever its end is.
-/

namespace Runbook

/-- What a run in a world changes as it goes. -/
structure RunState (W : Type) where
  /-- Where the run stands. -/
  progress : Progress
  /-- The visits of steps, the last one first. -/
  records : List StepRecord
  /-- What happened, the last event first. -/
  events : List Event
  /-- The long values in files. -/
  attachments : Attachments
  /-- The world. -/
  world : W

/-- Why a part of a run did not come to its end. -/
inductive Halt where
  /-- Something failed. -/
  | failed (failure : Failure)
  /-- There were more visits of steps than allowed for. -/
  | outOfFuel
  /-- The program broke down while it sorted items. -/
  | panicked
  deriving DecidableEq, Repr

/-- A part of a run in a world. -/
abbrev Run (W α : Type) := ExceptT Halt (StateM (RunState W)) α

namespace Run

variable {W α : Type}

/-- Fails. -/
def fail (failure : Failure) : Run W α := throw (.failed failure)

/-- A result, or a failure. -/
def ofExcept : Except Failure α → Run W α
  | .ok a => return a
  | .error failure => fail failure

/-- Notes an event. -/
def emit (event : Event) : Run W Unit := modify (fun s => { s with events := event :: s.events })

/-- Reports a line. -/
def report (line : LogLine) : Run W Unit := emit (.note line)

/-- Reports lines, in order. -/
def reportAll (lines : List LogLine) : Run W Unit :=
  modify (fun s => { s with events := (lines.map Event.note).reverse ++ s.events })

/-- Notes the outcome of a visit. -/
def record (r : StepRecord) : Run W Unit := modify (fun s => { s with records := r :: s.records })

/-- Where the run stands. -/
def progress : Run W Progress := return (← get).progress

/-- The variables. -/
def currentVars : Run W Variables := return (← get).progress.vars

/-- Changes where the run stands. -/
def update (f : Progress → Progress) : Run W Unit :=
  modify (fun s => { s with progress := f s.progress })

/-- Binds a variable. -/
def bindVar (name : String) (value : Value) : Run W Unit := update (·.bind name value)

/-- What a step asked of its loop, which counts as done from now on. -/
def takeSignal : Run W Signal := do
  let signal := (← progress).signal
  update (·.setSignal .quiet)
  return signal

/-- Whether a condition holds; what is wrong with it is reported. -/
def holds (condition : String) : Run W Bool := do
  let vars ← currentVars
  reportAll (Condition.warnings vars condition)
  return Condition.evaluate vars condition

/-- Fills a template for a tool that reads files, which are made known to the world. -/
def attach (publish : Attachments → W → W) (template : String) : Run W String := do
  let s ← get
  let attached := s.progress.vars.attach s.attachments template
  set { s with attachments := attached.store, world := publish attached.store s.world }
  reportAll attached.log
  return String.ofList (← ofExcept attached.outcome)

/-- Reaches into the world. -/
def reach (f : W → α × W) : Run W α := do
  let s ← get
  let (a, world) := f s.world
  set { s with world }
  return a

/-- Turns a failure into a result. -/
def attempt (part : Run W α) : Run W (Except Failure α) := fun s =>
  match part s with
  | (.ok a, s) => (.ok (.ok a), s)
  | (.error (.failed failure), s) => (.ok (.error failure), s)
  | (.error .outOfFuel, s) => (.error .outOfFuel, s)
  | (.error .panicked, s) => (.error .panicked, s)

/-- Changes where the run stands at the end of a part, whatever its end is. -/
def closing (part : Run W α) (close : Progress → Progress) : Run W α := fun s =>
  let (end_, s) := part s
  (end_, { s with progress := close s.progress })

end Run

end Runbook
