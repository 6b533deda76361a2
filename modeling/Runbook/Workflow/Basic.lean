import Runbook.Shared.Call

/-!
# Workflows

A workflow that has been checked and is ready to run.  Its steps are those of its definition, with
every adapter known to be there and every shared step in place of the reference to it.

* `Action` is what a step does;
* `CompiledShared` is a shared step, ready to be called;
* `Block.position?` finds the step that a jump leads to;
* `Block.sharedHeight` is the length of the longest chain of calls, `Block.stepCount` the number of
  steps with those inside loops.
-/

namespace Runbook

/-- A shared step, ready to be called, with steps that do what `A` says. -/
structure CompiledShared (A : Type) where
  /-- What makes it the same shared step under any reference. -/
  key : String
  /-- What a caller sees. -/
  signature : Signature
  /-- The steps. -/
  body : List (Step A)
  /-- The length of the longest chain of calls that begins with a call of it. -/
  height : Nat

/-- What a step does. -/
inductive Action where
  /-- Runs a shell command; `timeout` is in seconds. -/
  | bash (command : String) (timeout : Option Nat)
  /-- Runs an agent in a pane. -/
  | agent (prompt : String)
  /-- Runs an agent without a pane. -/
  | prompt (prompt : String)
  /-- Binds a variable. -/
  | set (var : String) (value : Value) (parseJson : Bool)
  /-- Writes a log line. -/
  | log (message : String) (level : LogLevel)
  /-- Jumps to a step of the same list. -/
  | goto (target : String)
  /-- Ends the loop around it. -/
  | leave
  /-- Begins the next pass of the loop around it. -/
  | next
  /-- Runs steps for each item. -/
  | foreach (loop : ForeachLoop) (body : List (Step Action))
  /-- Runs steps while a condition holds. -/
  | whilst (loop : WhileLoop) (body : List (Step Action))
  /-- Runs steps for each number. -/
  | range (loop : RangeLoop) (body : List (Step Action))
  /-- Runs steps until they succeed. -/
  | retry (loop : RetryLoop) (body : List (Step Action))
  /-- Calls a shared step. -/
  | shared (callee : CompiledShared Action) (inputs : KeyMap Value) (outputs : KeyMap String)
  /-- Calls an adapter. -/
  | adapter (name : String) (params : Value)

/-- The steps of one list, which jumps do not leave. -/
abbrev Block := List (Step Action)

namespace Block

/-- The position of the step of a name. -/
def position? (block : Block) (name : String) : Option Nat :=
  block.findIdx? (fun step => step.name == name)

mutual

/-- The length of the longest chain of calls that an action begins. -/
def actionHeight : Action → Nat
  | .shared callee _ _ => callee.height
  | .foreach _ body | .whilst _ body | .range _ body | .retry _ body => sharedHeight body
  | .bash .. | .agent _ | .prompt _ | .set .. | .log .. | .goto _ | .leave | .next
  | .adapter .. => 0

/-- The length of the longest chain of calls that a step begins. -/
def stepHeight : Step Action → Nat
  | ⟨_, _, _, _, _, _, _, action⟩ => actionHeight action

/-- The length of the longest chain of calls that a block begins. -/
def sharedHeight : List (Step Action) → Nat
  | [] => 0
  | step :: rest => max (stepHeight step) (sharedHeight rest)

end

mutual

/-- The number of steps inside the loops of an action. -/
def actionCount : Action → Nat
  | .foreach _ body | .whilst _ body | .range _ body | .retry _ body => stepCount body
  | .bash .. | .agent _ | .prompt _ | .set .. | .log .. | .goto _ | .leave | .next
  | .shared .. | .adapter .. => 0

/-- The number of steps that a step amounts to. -/
def ownCount : Step Action → Nat
  | ⟨_, _, _, _, _, _, _, action⟩ => actionCount action + 1

/-- The number of steps of a block, with those inside loops. -/
def stepCount : List (Step Action) → Nat
  | [] => 0
  | step :: rest => ownCount step + stepCount rest

end

end Block

/-- A workflow, ready to run. -/
structure Workflow where
  /-- The name. -/
  name : String
  /-- What it is for. -/
  description : Option String
  /-- The file it comes from. -/
  source : Option String
  /-- The variables it starts with. -/
  vars : KeyMap Value
  /-- What holds for the steps that do not say otherwise. -/
  defaults : Defaults
  /-- The steps. -/
  body : Block

end Runbook
