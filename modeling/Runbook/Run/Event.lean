import Runbook.Failure
import Runbook.Json.Value
import Runbook.Log
import Runbook.Progress

/-!
# What a run leaves behind

* `Event` is something that happened, and `Event.line` how the log tells it;
* `StepRecord` is the outcome of one visit of a step;
* `Report` is all that is known of a run when it is over, and `Report.recordsFor` the outcomes of the
  visits with a path.
-/

namespace Runbook

/-- Something that happened in a run. -/
inductive Event where
  /-- The step of a path, or the workflow, got into a state. -/
  | turn (path : String) (state : StepState)
  /-- Something was reported. -/
  | note (line : LogLine)
  deriving DecidableEq, Repr

/-- How important it is that a step got into a state. -/
def StepState.level : StepState → LogLevel
  | .running _ => .info
  | .errored _ => .warn
  | .ready _ | .skipped _ | .completed => .debug

/-- How the log tells an event. -/
def Event.line : Event → LogLine
  | .turn path state => ⟨state.level, s!"[Interpreter] {path} -> {state.text}"⟩
  | .note line => line

/-- How a visit of a step ended. -/
inductive StepStatus where
  /-- Its condition did not hold. -/
  | skipped
  /-- It succeeded. -/
  | succeeded
  /-- It failed. -/
  | failed
  deriving DecidableEq, Repr

/-- The name of a status. -/
def StepStatus.name : StepStatus → String
  | .skipped => "skipped"
  | .succeeded => "succeeded"
  | .failed => "failed"

/-- The outcome of one visit of a step. -/
structure StepRecord where
  /-- The names of the steps around it and its own, with slashes between them. -/
  path : String
  /-- How it ended. -/
  status : StepStatus
  /-- The beginning of its output. -/
  preview : String
  /-- Why it failed. -/
  error : Option String
  deriving DecidableEq, Repr

namespace StepRecord

/-- The most characters of a preview. -/
def previewLength : Nat := 200

/-- The beginning of a text, with three dots if it is not all of it. -/
def shorten (limit : Nat) (s : String) : String :=
  if s.length ≤ limit then s else String.ofList (s.toList.take (limit - 3)) ++ "..."

/-- The record of a step that was skipped. -/
def skip (path : String) : StepRecord := ⟨path, .skipped, "", none⟩

/-- The record of a step that succeeded. -/
def success (path : String) (output : Value) : StepRecord :=
  ⟨path, .succeeded, shorten previewLength output.text, none⟩

/-- The record of a step that failed. -/
def failure (path error : String) : StepRecord := ⟨path, .failed, "", some error⟩

end StepRecord

/-- All that is known of a run when it is over. -/
structure Report where
  /-- The name of the workflow. -/
  workflow : String
  /-- The visits of steps, in order. -/
  records : List StepRecord
  /-- Why the run was halted. -/
  failure : Option Failure
  /-- Where it stands. -/
  progress : Progress
  /-- What happened, in order. -/
  events : List Event

/-- Whether the run came to its end. -/
def Report.success (report : Report) : Bool := report.failure.isNone

/-- The records with a path. -/
def Report.recordsFor (report : Report) (path : String) : List StepRecord :=
  report.records.filter (·.path == path)

end Runbook
