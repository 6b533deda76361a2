import Runbook.Failure

/-!
# Outcomes of sessions

What is left of an interactive session, or what stopped it.
-/

namespace Runbook.Session

/-- How a session was found to be over. -/
inductive Completion where
  /-- Its program reported that it is done. -/
  | hook
  /-- Its program ended. -/
  | exited
  /-- Its pane stayed the same for a while. -/
  | idle
  deriving DecidableEq, Repr

/-- The name of a completion in a report. -/
def Completion.name : Completion → String
  | .hook => "hook"
  | .exited => "exited"
  | .idle => "idle"

/-- The name of a completion in the log. -/
def Completion.label : Completion → String
  | .hook => "Hook"
  | .exited => "Exited"
  | .idle => "Idle"

/-- What a session left behind. -/
structure Outcome where
  /-- The pane it ran in. -/
  paneId : String
  /-- What the pane showed at the end. -/
  output : String
  /-- How it was found to be over. -/
  completion : Completion
  deriving DecidableEq, Repr

/-- What can stop a session.  Only the errors of the session protocol are modelled: they are all that
a terminal and the listener give, although an operation on a pane might fail with any failure of a
run. -/
inductive Fault where
  /-- No port is free for the callback listener. -/
  | noPort (first last : Nat)
  /-- A program cannot be started. -/
  | spawn (detail : String)
  /-- The session broke down. -/
  | broken (detail : String)
  deriving DecidableEq, Repr

/-- The failure that a fault is for a run. -/
def Fault.failure : Fault → Failure
  | .noPort first last => .portExhausted first last
  | .spawn detail => .spawn detail
  | .broken detail => .session detail

end Runbook.Session
