import Runbook.Definition.Encoder
import Runbook.Workflow.Basic

/-!
# Writing workflows that are ready to run

A compiled workflow as a JSON value, to look at what compiling made of it.

* `Action.detail` has the parameters of an action, without the steps inside it;
* `Workflow.toValue` has all that is known of a workflow.
-/

namespace Runbook

/-- An end of a range, with the name of its form. -/
def Bound.toTagged : Bound → Value
  | .int i => .ofFields [("int", .int i)]
  | .template s => .ofFields [("template", .string s)]

/-- The parameters of a loop over a range, each end with its form. -/
def RangeLoop.detail (l : RangeLoop) : List (String × Value) :=
  [("from", l.first.toTagged), ("to", l.last.toTagged), ("step", .int l.stride),
    ("var", .string l.var)]

/-- The parameters of a call of a shared step. -/
def CompiledShared.detail (callee : CompiledShared Action) (inputs : KeyMap Value)
    (outputs : KeyMap String) : List (String × Value) :=
  [("key", .string callee.key), ("name", .string callee.signature.name),
    ("height", .int callee.height), ("body_steps", .int (Block.stepCount callee.body)),
    ("inputs", .ofMap inputs), ("outputs", .ofTexts outputs)]

namespace Action

/-- The name of the tool of an action. -/
def kind : Action → String
  | .bash .. => "bash"
  | .agent .. => "agent"
  | .prompt .. => "prompt"
  | .set .. => "set"
  | .log .. => "log"
  | .goto .. => "goto"
  | .leave => "break"
  | .next => "continue"
  | .foreach .. => "foreach"
  | .whilst .. => "while"
  | .range .. => "range"
  | .retry .. => "retry"
  | .shared .. => "shared"
  | .adapter .. => "adapter"

/-- The parameters of an action, without the steps inside it. -/
def detail : Action → List (String × Value)
  | .bash command timeout =>
    [("command", .string command), ("timeout_secs", timeout.elim .null (fun n => .int n))]
  | .agent text => [("prompt", .string text)]
  | .prompt text => [("prompt", .string text)]
  | .set var value parseJson =>
    [("var", .string var), ("value", value), ("parse_json", .bool parseJson)]
  | .log message level => [("message", .string message), ("level", .string level.name)]
  | .goto target => [("target", .string target)]
  | .leave => []
  | .next => []
  | .foreach loop _ => loop.fields
  | .whilst loop _ => loop.fields
  | .range loop _ => loop.detail
  | .retry loop _ => loop.fields
  | .shared callee inputs outputs => callee.detail inputs outputs
  | .adapter name params =>
    [("handle", .string s!"AdapterHandle(\"{name}\")"), ("params", params)]

end Action

namespace Block

mutual

/-- The steps inside an action as a value. -/
def bodyValue : Action → Value
  | .foreach _ body | .whilst _ body | .range _ body | .retry _ body => .array (stepValues body)
  | .bash .. | .agent _ | .prompt _ | .set .. | .log .. | .goto _ | .leave | .next
  | .shared .. | .adapter .. => .null

/-- A step as a value. -/
def stepValue : Step Action → Value
  | ⟨name, condition, onError, outputVar, visible, cwd, model, action⟩ =>
    .ofFields ((⟨name, condition, onError, outputVar, visible, cwd, model, ()⟩ :
      Step Unit).commonFields ++ [("kind", .string action.kind),
        ("detail", .ofFields action.detail), ("body", bodyValue action)])

/-- Steps as values. -/
def stepValues : List (Step Action) → List Value
  | [] => []
  | step :: rest => stepValue step :: stepValues rest

end

/-- The positions of the steps by their names. -/
def positions (block : Block) : KeyMap Value :=
  .ofList (block.zipIdx.map (fun (step, i) => (step.name, .int i)))

end Block

/-- A workflow as a value. -/
def Workflow.toValue (w : Workflow) : Value :=
  .ofFields [("name", .string w.name), ("description", .ofString? w.description),
    ("source", .ofString? w.source), ("variables", .ofMap w.vars),
    ("defaults", w.defaults.toValue), ("len", .int w.body.length),
    ("is_empty", .bool w.body.isEmpty), ("step_count", .int (Block.stepCount w.body)),
    ("shared_height", .int (Block.sharedHeight w.body)), ("positions", .ofMap w.body.positions),
    ("steps", .array (Block.stepValues w.body))]

end Runbook
