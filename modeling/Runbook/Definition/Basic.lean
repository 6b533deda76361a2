import Runbook.Json.Value
import Runbook.Log

/-!
# Definitions

A workflow as it is written down: an ordered list of steps, each with a tool and what it needs.

* `Step` has what all steps have in common, and its tool;
* `Tool` is the choice of tools, the loops among them holding steps of their own;
* `Definition` is a workflow, `SharedDefinition` a bundle of steps that others call by reference;
* `InputSchema` says what an input of a shared step has to look like.
-/

namespace Runbook

/-- What to do when a step fails. -/
inductive OnError where
  /-- Halt the run. -/
  | stop
  /-- Note the failure and go on. -/
  | goOn
  deriving DecidableEq, Repr

/-- What to do when a loop runs out of passes. -/
inductive OnExhausted where
  /-- Halt the run. -/
  | fail
  /-- Note it and go on. -/
  | goOn
  deriving DecidableEq, Repr

/-- The order of sorted items. -/
inductive SortOrder where
  /-- Small ones first. -/
  | ascending
  /-- Large ones first. -/
  | descending
  deriving DecidableEq, Repr

/-- An end of a range. -/
inductive Bound where
  /-- A whole number. -/
  | int (value : Int)
  /-- A template that has to turn into one. -/
  | template (text : String)
  deriving DecidableEq, Repr

/-- What all steps have, and a tool. -/
structure Step (T : Type) where
  /-- The name, which no other step of the list has. -/
  name : String
  /-- The condition under which the step runs. -/
  condition : Option String
  /-- What to do when it fails. -/
  onError : OnError
  /-- The variable for its output. -/
  outputVar : Option String
  /-- Whether it runs in a pane. -/
  visible : Option Bool
  /-- Its working directory. -/
  cwd : Option String
  /-- The model for agents. -/
  model : Option String
  /-- What it does. -/
  tool : T
  deriving Repr

/-- A loop over items. -/
structure ForeachLoop where
  /-- A list, or a template for one. -/
  items : Value
  /-- The variable for the item. -/
  itemVar : String
  /-- The variable for its position. -/
  indexVar : String
  /-- Which items to keep. -/
  filter : Option String
  /-- The path of the value to sort by. -/
  sortBy : Option String
  /-- The order to sort in. -/
  sortOrder : SortOrder
  /-- When to stop. -/
  stopWhen : Option String
  deriving DecidableEq, Repr

/-- A loop while a condition holds. -/
structure WhileLoop where
  /-- The condition. -/
  condition : String
  /-- The most passes. -/
  maxPasses : Nat
  /-- The variable for the number of the pass. -/
  counterVar : String
  /-- What to do after the most passes. -/
  onExhausted : OnExhausted
  deriving DecidableEq, Repr

/-- A loop over a range of numbers. -/
structure RangeLoop where
  /-- The first number. -/
  first : Bound
  /-- The number not to go beyond. -/
  last : Bound
  /-- The distance between two numbers. -/
  stride : Int
  /-- The variable for the number. -/
  var : String
  deriving DecidableEq, Repr

/-- A loop until a pass succeeds. -/
structure RetryLoop where
  /-- The most passes. -/
  maxAttempts : Nat
  /-- The pause between two passes, in milliseconds. -/
  delay : Nat
  /-- When a pass has succeeded; without it, when it did not fail. -/
  stopWhen : Option String
  /-- The variable for the number of the pass. -/
  attemptVar : String
  /-- What to do after the most passes. -/
  onExhausted : OnExhausted
  deriving DecidableEq, Repr

/-- A call of a shared step. -/
structure SharedCall where
  /-- The reference to the shared step. -/
  uses : String
  /-- The inputs. -/
  inputs : KeyMap Value
  /-- The outputs, by the variable that each goes to. -/
  outputs : KeyMap String
  deriving DecidableEq

/-- What a step does. -/
inductive Tool where
  /-- A shell command; `timeout` is in seconds. -/
  | bash (command : String) (timeout : Option Nat)
  /-- An agent in a pane. -/
  | agent (prompt : String)
  /-- An agent without a pane. -/
  | prompt (prompt : String)
  /-- Binds a variable. -/
  | set (var : String) (value : Value) (parseJson : Bool)
  /-- Writes a log line. -/
  | log (message : String) (level : LogLevel)
  /-- Jumps to a step of the same list. -/
  | goto (target : String)
  /-- Ends the loop around it. -/
  | leave
  /-- Begins the next pass of the loop around it. -/
  | next
  /-- Runs steps for each item. -/
  | foreach (loop : ForeachLoop) (steps : List (Step Tool))
  /-- Runs steps while a condition holds. -/
  | whilst (loop : WhileLoop) (steps : List (Step Tool))
  /-- Runs steps for each number. -/
  | range (loop : RangeLoop) (steps : List (Step Tool))
  /-- Runs steps until they succeed. -/
  | retry (loop : RetryLoop) (steps : List (Step Tool))
  /-- Calls a shared step. -/
  | shared (call : SharedCall)
  /-- Calls an adapter. -/
  | adapter (name : String) (params : Value)

/-- The name of a tool. -/
def Tool.kind : Tool → String
  | .bash .. => "bash"
  | .agent .. => "agent"
  | .prompt .. => "prompt"
  | .set .. => "set"
  | .log .. => "log"
  | .goto .. => "goto"
  | .leave => "break"
  | .next => "continue"
  | .foreach .. => "foreach"
  | .whilst .. => "while"
  | .range .. => "range"
  | .retry .. => "retry"
  | .shared .. => "shared"
  | .adapter .. => "adapter"

/-- A step as it is written down. -/
abbrev StepDefinition := Step Tool

/-- What holds for the steps that do not say otherwise. -/
structure Defaults where
  /-- The model for agents. -/
  model : Option String := none
  /-- What agents are permitted to do. -/
  permissionMode : Option String := none
  /-- Whether commands run in panes. -/
  visible : Bool := false
  deriving DecidableEq, Repr

/-- A workflow as it is written down. -/
structure Definition where
  /-- The name. -/
  name : String
  /-- What it is for. -/
  description : Option String
  /-- The version. -/
  version : String
  /-- The variables it starts with. -/
  vars : KeyMap Value
  /-- What holds for the steps that do not say otherwise. -/
  defaults : Defaults
  /-- The steps. -/
  steps : List StepDefinition

/-- The types that an input can be asked to have. -/
inductive InputType where
  /-- A text. -/
  | string
  /-- A number. -/
  | number
  /-- A whole number. -/
  | integer
  /-- A truth value. -/
  | boolean
  /-- A list. -/
  | array
  /-- A map. -/
  | object
  deriving DecidableEq, Repr

/-- What an input has to look like. -/
structure InputSchema where
  /-- Its type. -/
  type : Option InputType := none
  /-- The values it may have. -/
  allowed : Option (List Value) := none
  /-- A pattern that has to match in its text. -/
  pattern : Option String := none
  deriving DecidableEq, Repr

/-- An input of a shared step. -/
structure InputSpec where
  /-- The name. -/
  name : String
  /-- Whether it has to be given. -/
  required : Bool
  /-- Its value when it is not given. -/
  default : Option Value
  /-- What it has to look like. -/
  schema : Option InputSchema
  deriving DecidableEq, Repr

/-- A shared step as it is written down. -/
structure SharedDefinition where
  /-- The name. -/
  name : String
  /-- What it is for. -/
  description : Option String
  /-- The inputs. -/
  inputs : List InputSpec
  /-- The path of each output, by its name. -/
  outputs : KeyMap String
  /-- The steps. -/
  steps : List StepDefinition

/-! ## Names of choices -/

/-- The name of a choice in a document. -/
def OnError.name : OnError → String
  | .stop => "stop"
  | .goOn => "continue"

/-- The name of a choice in a document. -/
def OnExhausted.name : OnExhausted → String
  | .fail => "error"
  | .goOn => "continue"

/-- The name of a choice in a document. -/
def SortOrder.name : SortOrder → String
  | .ascending => "asc"
  | .descending => "desc"

/-- The name of a type in a document. -/
def InputType.name : InputType → String
  | .string => "string"
  | .number => "number"
  | .integer => "integer"
  | .boolean => "boolean"
  | .array => "array"
  | .object => "object"

/-- The choices after a failure. -/
def OnError.all : List OnError := [.stop, .goOn]

/-- The choices after the last pass. -/
def OnExhausted.all : List OnExhausted := [.fail, .goOn]

/-- The orders to sort in. -/
def SortOrder.all : List SortOrder := [.ascending, .descending]

/-- The types of inputs. -/
def InputType.all : List InputType := [.string, .number, .integer, .boolean, .array, .object]

/-- The levels of log lines. -/
def LogLevel.all : List LogLevel := [.debug, .info, .warn, .error]

end Runbook
