/-!
# Failures

Everything that can go wrong with a workflow, by cause.  A failure is found while a workflow is
loaded and checked, while a step runs, or in the sessions and commands that steps start.

* `Failure.text` is the full wording;
* `Failure.message` is the wording without the name of the step;
* `Failure.isStepFailure` says which failures a step may pass over;
* `Failure.isLoadTime` says which failures are found before anything runs.
-/

namespace Runbook

/-- What went wrong. -/
inductive Failure where
  /-- A document is not what it should be. -/
  | parse (detail : String)
  /-- A file cannot be read or written. -/
  | io (detail : String)
  /-- No workflow answers to the selector. -/
  | workflowNotFound (selector : String)
  /-- Two steps of one list share a name. -/
  | duplicateStep (scope name : String)
  /-- A jump leads to no step of its list. -/
  | unknownJumpTarget (step target : String)
  /-- A step leaves or restarts a loop where there is none. -/
  | signalOutsideLoop (step signal : String)
  /-- A step has a parameter that it cannot have. -/
  | invalidStep (step reason : String)
  /-- A step names an adapter that is not registered. -/
  | unknownAdapter (step adapter : String)
  /-- A reference leads to no shared step. -/
  | sharedNotFound (reference : String)
  /-- A required input is not given. -/
  | missingInput (shared input : String)
  /-- An input is not what its schema asks for. -/
  | schemaMismatch (shared input reason : String)
  /-- Shared steps lead back to themselves. -/
  | circularReference (chain : List String)
  /-- Shared steps call each other too deep. -/
  | depthExceeded (depth max : Nat)
  /-- A step ran and failed. -/
  | stepFailed (step message : String)
  /-- A loop ran out of passes. -/
  | loopExhausted (step detail : String)
  /-- No port is free for the callback listener. -/
  | portExhausted (first last : Nat)
  /-- A program cannot be started. -/
  | spawn (detail : String)
  /-- A session broke down. -/
  | session (detail : String)
  deriving DecidableEq, Repr

namespace Failure

/-- The full wording. -/
def text : Failure → String
  | .parse detail => s!"Parse error: {detail}"
  | .io detail => s!"I/O error: {detail}"
  | .workflowNotFound selector => s!"Workflow not found: {selector}"
  | .duplicateStep scope name => s!"Duplicate step name '{name}' in {scope}"
  | .unknownJumpTarget step target => s!"Step '{step}' jumps to unknown step '{target}'"
  | .signalOutsideLoop step signal => s!"Step '{step}' signals {signal} outside of a loop body"
  | .invalidStep step reason => s!"Invalid step '{step}': {reason}"
  | .unknownAdapter step adapter => s!"Step '{step}' uses unknown adapter '{adapter}'"
  | .sharedNotFound reference => s!"Shared step not found: {reference}"
  | .missingInput shared input => s!"Shared step '{shared}' is missing required input '{input}'"
  | .schemaMismatch shared input reason =>
    s!"Shared step '{shared}' input '{input}' does not match its schema: {reason}"
  | .circularReference chain => "Circular shared step reference: " ++ " -> ".intercalate chain
  | .depthExceeded depth max =>
    s!"Shared step nesting depth {depth} exceeds the maximum of {max}"
  | .stepFailed step message => s!"Step '{step}' failed: {message}"
  | .loopExhausted step detail => s!"Loop '{step}' exhausted: {detail}"
  | .portExhausted first last => s!"No free callback port in {first}..={last}"
  | .spawn detail => s!"Spawn error: {detail}"
  | .session detail => s!"Session error: {detail}"

/-- The wording without the name of the step. -/
def message : Failure → String
  | .stepFailed _ message => message
  | other => other.text

/-- Whether a step may pass over the failure, and a retry loop try again after it. -/
def isStepFailure : Failure → Bool
  | .stepFailed _ _ => true
  | _ => false

/-- Whether the failure is found before anything runs. -/
def isLoadTime : Failure → Bool
  | .stepFailed _ _ | .loopExhausted _ _ | .portExhausted _ _ | .spawn _ | .session _ => false
  | _ => true

end Failure

end Runbook
