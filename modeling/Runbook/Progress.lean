import Runbook.Variables

/-!
# Progress of a run

Where a run stands: its variables, the step it is at, the loops around that step, and what a step
asked for that is still to be done.

* `Progress.enterLoop` opens a frame that keeps the values of the loop's own variables;
* `Progress.exitLoop` closes the innermost frame and puts those values back;
* `StepState.text` names the states a step goes through.
-/

namespace Runbook

/-- What a step asks of the loop around it. -/
inductive Signal where
  /-- Nothing. -/
  | quiet
  /-- To end the loop. -/
  | leave
  /-- To begin the next pass. -/
  | next
  deriving DecidableEq, Repr

/-- The name of a signal. -/
def Signal.name : Signal → String
  | .quiet => "none"
  | .leave => "break"
  | .next => "continue"

/-- The signals with a name, in order. -/
def Signal.all : List Signal := [.quiet, .leave, .next]

/-- The kinds of loops. -/
inductive LoopKind where
  /-- A pass for each item of a list. -/
  | iteration
  /-- Passes as long as a condition holds. -/
  | whilst
  /-- A pass for each number of a range. -/
  | range
  /-- Passes until one succeeds. -/
  | retry
  deriving DecidableEq, Repr

/-- The name of a kind of loops. -/
def LoopKind.name : LoopKind → String
  | .iteration => "iteration"
  | .whilst => "while"
  | .range => "range"
  | .retry => "retry"

/-- The kinds of loops, in order. -/
def LoopKind.all : List LoopKind := [.iteration, .whilst, .range, .retry]

/-- The value of a variable before a loop; none if there was no such variable. -/
structure Saved where
  /-- The variable. -/
  name : String
  /-- Its value. -/
  value : Option Value
  deriving DecidableEq, Repr

/-- An active loop. -/
structure Frame where
  /-- Its kind. -/
  kind : LoopKind
  /-- The name of the loop step. -/
  step : String
  /-- The position of the loop step in its list. -/
  entry : Nat
  /-- The number of the pass, from 0. -/
  cursor : Nat
  /-- The number of passes, if it is known from the start. -/
  total : Option Nat
  /-- The values to put back. -/
  saved : List Saved
  deriving DecidableEq, Repr

/-- Where a run stands. -/
structure Progress where
  /-- The variables. -/
  vars : Variables
  /-- The position of the step that is up, in its list. -/
  stepIndex : Nat
  /-- The active loops, the innermost first. -/
  loops : List Frame
  /-- What the last step asked of its loop. -/
  signal : Signal
  /-- Whether the run came to its end. -/
  completed : Bool
  /-- Why the run was halted. -/
  error : Option String
  /-- The step to jump to. -/
  jump : Option String
  deriving DecidableEq

namespace Progress

/-- The start of a run. -/
def start (vars : Variables) : Progress := ⟨vars, 0, [], .quiet, false, none, none⟩

/-- Binds a variable. -/
def bind (p : Progress) (name : String) (value : Value) : Progress :=
  { p with vars := p.vars.insert name value }

/-- Removes a variable. -/
def unbind (p : Progress) (name : String) : Progress :=
  { p with vars := p.vars.erase name }

/-- Opens a frame that keeps the values of `names`. -/
def enterLoop (p : Progress) (kind : LoopKind) (step : String) (entry : Nat)
    (names : List String) : Progress :=
  { p with
    loops := ⟨kind, step, entry, 0, none,
      names.map (fun name => ⟨name, p.vars.find? name⟩)⟩ :: p.loops }

/-- Puts the value of a variable back. -/
def restoreOne (saved : Saved) (vars : Variables) : Variables :=
  match saved.value with
  | some value => vars.insert saved.name value
  | none => vars.erase saved.name

/-- Puts the values back, the last one first, so that a name kept twice gets its first value. -/
def restore (saved : List Saved) (vars : Variables) : Variables :=
  saved.foldr restoreOne vars

/-- Closes the innermost frame. -/
def exitLoop (p : Progress) : Progress :=
  match p.loops with
  | [] => p
  | frame :: outer =>
    { p with loops := outer, vars := restore frame.saved p.vars, signal := .quiet }

/-- Changes the innermost frame. -/
def onFrame (f : Frame → Frame) (p : Progress) : Progress :=
  match p.loops with
  | [] => p
  | frame :: outer => { p with loops := f frame :: outer }

/-- Notes the number of the pass. -/
def setCursor (p : Progress) (cursor : Nat) : Progress :=
  p.onFrame (fun frame => { frame with cursor })

/-- Notes the number of passes. -/
def setTotal (p : Progress) (total : Nat) : Progress :=
  p.onFrame (fun frame => { frame with total := some total })

/-- Asks something of the loop. -/
def setSignal (p : Progress) (signal : Signal) : Progress := { p with signal }

end Progress

/-- The states that a step goes through. -/
inductive StepState where
  /-- The step is up. -/
  | ready (index : Nat)
  /-- Its condition does not hold. -/
  | skipped (index : Nat)
  /-- It runs. -/
  | running (index : Nat)
  /-- It failed, and the run halts. -/
  | errored (index : Nat)
  /-- All steps are done. -/
  | completed
  deriving DecidableEq, Repr

/-- The name of a state. -/
def StepState.text : StepState → String
  | .ready i => s!"Ready({i})"
  | .skipped i => s!"Skipped({i})"
  | .running i => s!"Running({i})"
  | .errored i => s!"Errored({i})"
  | .completed => "Completed"

end Runbook
