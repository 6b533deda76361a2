import Runbook.Definition.Basic
import Runbook.Document.Yaml
import Runbook.Number.Binary64

/-!
# Reading definitions

A definition from a document.  Fields that are not known are passed over, a field given twice is a
fault, and a field that is not given has its default.

The fields that all steps have are read as they are written, so that a name may be written `5`.
The fields of a tool are typed first, and so are the steps inside a loop: there a number is not
taken for a text.

* `Tool.ofFields?` and `Tool.stepOfNode?` read a tool and a step;
* `Definition.ofNode?` and `SharedDefinition.ofNode?` read a whole definition;
* `Definition.ofYaml?` and `SharedDefinition.ofYaml?` read one from a text.
-/

namespace Runbook

/-- A field that has to be given. -/
def required? {α : Type} (read : Node → Option α) : Option Node → Option α
  | some n => read n
  | none => none

/-- A field with a default. -/
def defaulted? {α : Type} (read : Node → Option α) (default : α) : Option Node → Option α
  | some n => read n
  | none => some default

/-- A field that may be absent. -/
def optional? {α : Type} (read : Node → Option α) : Option Node → Option (Option α)
  | some n => do if ← n.isAbsent? then some none else (read n).map some
  | none => some none

/-- A whole number between two bounds. -/
def intWithin? (low high : Int) (n : Node) : Option Int :=
  n.int?.bind (fun i => if low ≤ i ∧ i ≤ high then some i else none)

/-- A natural number below `2 ^ bits`. -/
def natBelow? (bits : Nat) (n : Node) : Option Nat :=
  (intWithin? 0 (twoTo bits - 1) n).map Int.toNat

/-- One of several choices, given by its name, or in some places by its position. -/
def choiceOf? {α : Type} (name : α → String) (all : List α) (n : Node) : Option α :=
  match n.choice? with
  | some (.name s) => all.find? (name · == s)
  | some (.position i) => all[i]?
  | none => none

/-- Values by name. -/
def valueMap? (n : Node) : Option (KeyMap Value) := do
  return KeyMap.ofList
    (← (← n.named?).mapM (fun (k, v) => do return (k, ← v.value?)))

/-- Texts by name. -/
def textMap? (n : Node) : Option (KeyMap String) := do
  return KeyMap.ofList
    (← (← n.named?).mapM (fun (k, v) => do return (k, ← v.text?)))

/-- An end of a range. -/
def Bound.ofNode? (n : Node) : Option Bound :=
  match intWithin? (-twoTo 63) (twoTo 63 - 1) n with
  | some i => some (.int i)
  | none => n.text?.map .template

/-- What follows the fields of a tool: the steps of a loop. -/
abbrev StepsReader := Node → Option (List StepDefinition)

/-- The fields of a tool as given. -/
abbrev ToolFields := List (Node.FieldKey × Node)

namespace ToolFields

/-- The fields called `names`, if none is given twice. -/
def take? (fields : ToolFields) (names : List String) : Option (List (Option Node)) :=
  names.zipIdx.mapM (fun (name, i) => Node.field? fields name i)

end ToolFields

/-- Reads a loop over items. -/
def ForeachLoop.ofFields? (steps : StepsReader) (fields : ToolFields) :
    Option (ForeachLoop × List StepDefinition) := do
  match ← fields.take? ["items", "item_var", "index_var", "filter", "sort_by", "sort_order",
    "until", "steps"] with
  | [items, itemVar, indexVar, filter, sortBy, sortOrder, stopWhen, body] =>
    let loop : ForeachLoop :=
      ⟨← required? Node.value? items, ← defaulted? Node.text? "item" itemVar,
        ← defaulted? Node.text? "index" indexVar, ← optional? Node.text? filter,
        ← optional? Node.text? sortBy,
        ← defaulted? (choiceOf? SortOrder.name SortOrder.all) .ascending sortOrder,
        ← optional? Node.text? stopWhen⟩
    return (loop, ← required? steps body)
  | _ => none

/-- Reads a loop while a condition holds. -/
def WhileLoop.ofFields? (steps : StepsReader) (fields : ToolFields) :
    Option (WhileLoop × List StepDefinition) := do
  match ← fields.take? ["condition", "max_iterations", "counter_var", "on_exhausted",
    "steps"] with
  | [condition, maxPasses, counterVar, onExhausted, body] =>
    let loop : WhileLoop :=
      ⟨← required? Node.text? condition, ← defaulted? (natBelow? 32) 100 maxPasses,
        ← defaulted? Node.text? "iteration" counterVar,
        ← defaulted? (choiceOf? OnExhausted.name OnExhausted.all) .fail onExhausted⟩
    return (loop, ← required? steps body)
  | _ => none

/-- Reads a loop over a range. -/
def RangeLoop.ofFields? (steps : StepsReader) (fields : ToolFields) :
    Option (RangeLoop × List StepDefinition) := do
  match ← fields.take? ["from", "to", "step", "var", "steps"] with
  | [first, last, stride, var, body] =>
    let loop : RangeLoop :=
      ⟨← required? Bound.ofNode? first, ← required? Bound.ofNode? last,
        ← defaulted? (intWithin? (-twoTo 63) (twoTo 63 - 1)) 1 stride,
        ← defaulted? Node.text? "i" var⟩
    return (loop, ← required? steps body)
  | _ => none

/-- Reads a loop until a pass succeeds. -/
def RetryLoop.ofFields? (steps : StepsReader) (fields : ToolFields) :
    Option (RetryLoop × List StepDefinition) := do
  match ← fields.take? ["max_attempts", "delay_ms", "until", "attempt_var", "on_exhausted",
    "steps"] with
  | [maxAttempts, delay, stopWhen, attemptVar, onExhausted, body] =>
    let loop : RetryLoop :=
      ⟨← defaulted? (natBelow? 32) 3 maxAttempts, ← defaulted? (natBelow? 64) 0 delay,
        ← optional? Node.text? stopWhen, ← defaulted? Node.text? "attempt" attemptVar,
        ← defaulted? (choiceOf? OnExhausted.name OnExhausted.all) .fail onExhausted⟩
    return (loop, ← required? steps body)
  | _ => none

/-- Reads a call from its fields. -/
def SharedCall.ofParts? : List (Option Node) → Option SharedCall
  | [uses, inputs, outputs] => do
    return ⟨← required? Node.text? uses, ← defaulted? valueMap? .empty inputs,
      ← defaulted? textMap? .empty outputs⟩
  | _ => none

/-- The names of the fields of a call. -/
def SharedCall.fieldNames : List String := ["uses", "inputs", "outputs"]

/-- The names of the tools, in order. -/
def Tool.kinds : List String :=
  ["bash", "agent", "prompt", "set", "log", "goto", "break", "continue", "foreach", "while",
    "range", "retry", "shared", "adapter"]

/-- The name of a tool, given by itself or by its position. -/
def Tool.kindOf? (n : Node) : Option String :=
  match n.fieldKey? with
  | some (.name s) => some s
  | some (.position i) => Tool.kinds[i]?
  | none => none

/-- Reads a tool from its fields. -/
def Tool.ofFields? (steps : StepsReader) (kind : String) (fields : ToolFields) : Option Tool := do
  match kind with
  | "bash" =>
    match ← fields.take? ["command", "timeout_secs"] with
    | [command, timeout] =>
      return .bash (← required? Node.text? command) (← optional? (natBelow? 64) timeout)
    | _ => none
  | "agent" =>
    match ← fields.take? ["prompt"] with
    | [text] => return .agent (← required? Node.text? text)
    | _ => none
  | "prompt" =>
    match ← fields.take? ["prompt"] with
    | [text] => return .prompt (← required? Node.text? text)
    | _ => none
  | "set" =>
    match ← fields.take? ["var", "value", "parse_json"] with
    | [var, value, parseJson] =>
      return .set (← required? Node.text? var) (← required? Node.value? value)
        (← defaulted? Node.truth? false parseJson)
    | _ => none
  | "log" =>
    match ← fields.take? ["message", "level"] with
    | [message, level] =>
      return .log (← required? Node.text? message)
        (← defaulted? (choiceOf? LogLevel.name LogLevel.all) .info level)
    | _ => none
  | "goto" =>
    match ← fields.take? ["target"] with
    | [target] => return .goto (← required? Node.text? target)
    | _ => none
  | "break" => return .leave
  | "continue" => return .next
  | "foreach" =>
    let (loop, body) ← ForeachLoop.ofFields? steps fields
    return .foreach loop body
  | "while" =>
    let (loop, body) ← WhileLoop.ofFields? steps fields
    return .whilst loop body
  | "range" =>
    let (loop, body) ← RangeLoop.ofFields? steps fields
    return .range loop body
  | "retry" =>
    let (loop, body) ← RetryLoop.ofFields? steps fields
    return .retry loop body
  | "shared" => return .shared (← SharedCall.ofParts? (← fields.take? SharedCall.fieldNames))
  | "adapter" =>
    match ← fields.take? ["adapter", "params"] with
    | [name, params] =>
      return .adapter (← required? Node.text? name) (← defaulted? Node.value? .null params)
    | _ => none
  | _ => none

/-- The names of the fields that all steps have; two of them have a second name. -/
def Step.fieldNames : List (List String) :=
  [["name"], ["when"], ["on_error", "onError"], ["output_var", "outputVar"], ["visible"], ["cwd"],
    ["model"]]

/-- Whether a key is one of the names. -/
def Node.FieldKey.isOneOf (names : List String) : Node.FieldKey → Bool
  | .name s => names.contains s
  | .position _ => false

/-- The value of a field under any of its names; two are a fault. -/
def Step.field? (fields : ToolFields) (names : List String) : Option (Option Node) :=
  match fields.filter (fun (k, _) => k.isOneOf names) with
  | [] => some none
  | [(_, v)] => some (some v)
  | _ => none

/-- The fields that are not common to all steps, typed. -/
def Step.ownFields? (fields : ToolFields) : Option ToolFields :=
  (fields.filter (fun (k, _) => !k.isOneOf Step.fieldNames.flatten)).mapM
    (fun (k, v) => do return (k, ← v.typed?))

/-- Reads a step whose tool, if it is a loop, has its steps read by `steps`. -/
def Tool.stepOfNode? (steps : StepsReader) (n : Node) : Option StepDefinition := do
  match n with
  | .list _ _ => none
  | n =>
    let fields ← n.fields?
    match ← Step.fieldNames.mapM (Step.field? fields) with
    | [name, condition, onError, outputVar, visible, cwd, model] =>
      let own ← Step.ownFields? fields
      let kinds := own.filter (fun (k, _) => k.isOneOf ["tool"])
      match kinds with
      | [(_, kind)] =>
        let rest := own.filter (fun (k, _) => !k.isOneOf ["tool"])
        return ⟨← required? Node.text? name, ← optional? Node.text? condition,
          ← defaulted? (choiceOf? OnError.name OnError.all) .stop onError,
          ← optional? Node.text? outputVar, ← optional? Node.truth? visible,
          ← optional? Node.text? cwd, ← optional? Node.text? model,
          ← Tool.ofFields? steps (← Tool.kindOf? kind) rest⟩
      | _ => none
    | _ => none

/-- Reads the steps of a list; those of loops lie inside each other at most `fuel` deep. -/
def Tool.stepsOfNode? : Nat → StepsReader
  | 0, _ => none
  | fuel + 1, n => do (← n.items?).mapM (Tool.stepOfNode? (Tool.stepsOfNode? fuel))

/-- Reads the steps of a list. -/
def readSteps? (n : Node) : Option (List StepDefinition) := Tool.stepsOfNode? (n.depth + 1) n

/-- The names of the fields of defaults. -/
def Defaults.fieldNames : List String :=
  ["model", "permission_mode", "visible"]

/-- Reads defaults. -/
def Defaults.ofNode? (n : Node) : Option Defaults := do
  match ← n.record? Defaults.fieldNames 0 with
  | [model, permissionMode, visible] =>
    return ⟨← optional? Node.text? model, ← optional? Node.text? permissionMode,
      ← defaulted? Node.truth? false visible⟩
  | _ => none

/-- The names of the fields of a workflow. -/
def Definition.fieldNames : List String :=
  ["name", "description", "version", "variables", "defaults", "steps"]

/-- Reads a workflow. -/
def Definition.ofNode? (n : Node) : Option Definition := do
  match ← n.record? Definition.fieldNames 6 with
  | [name, description, version, vars, defaults, steps] =>
    return ⟨← required? Node.text? name, ← optional? Node.text? description,
      ← defaulted? Node.text? "1.0" version, ← defaulted? valueMap? .empty vars,
      ← defaulted? Defaults.ofNode? {} defaults, ← required? readSteps? steps⟩
  | _ => none

/-- The names of the fields of a schema. -/
def InputSchema.fieldNames : List String :=
  ["type", "enum", "pattern"]

/-- Reads a schema. -/
def InputSchema.ofNode? (n : Node) : Option InputSchema := do
  match ← n.record? InputSchema.fieldNames 0 with
  | [type, allowed, pattern] =>
    return ⟨← optional? (choiceOf? InputType.name InputType.all) type,
      ← optional? (fun n => do (← n.items?).mapM Node.value?) allowed,
      ← optional? Node.text? pattern⟩
  | _ => none

/-- The names of the fields of an input. -/
def InputSpec.fieldNames : List String :=
  ["name", "required", "default", "schema"]

/-- Reads an input. -/
def InputSpec.ofNode? (n : Node) : Option InputSpec := do
  match ← n.record? InputSpec.fieldNames 1 with
  | [name, required, default, schema] =>
    return ⟨← required? Node.text? name, ← defaulted? Node.truth? false required,
      ← optional? Node.value? default, ← optional? InputSchema.ofNode? schema⟩
  | _ => none

/-- The names of the fields of a shared step. -/
def SharedDefinition.fieldNames : List String :=
  ["name", "description", "inputs", "outputs", "steps"]

/-- Reads a shared step. -/
def SharedDefinition.ofNode? (n : Node) : Option SharedDefinition := do
  match ← n.record? SharedDefinition.fieldNames 5 with
  | [name, description, inputs, outputs, steps] =>
    return ⟨← required? Node.text? name, ← optional? Node.text? description,
      ← defaulted? (fun n => do (← n.items?).mapM InputSpec.ofNode?) [] inputs,
      ← defaulted? textMap? .empty outputs, ← required? readSteps? steps⟩
  | _ => none

/-- Reads a call. -/
def SharedCall.ofNode? (n : Node) : Option SharedCall := do
  SharedCall.ofParts? (← n.record? SharedCall.fieldNames 1)

/-- The fields of a record that are of interest as a whole. -/
def Shape.wholeFields (names : List String) : List (String × Shape) := names.map (·, .whole)

/-- What is of interest of a workflow. -/
def Definition.shape : Shape :=
  .fields (("defaults", .fields (Shape.wholeFields Defaults.fieldNames)) ::
    Shape.wholeFields Definition.fieldNames)

/-- What is of interest of an input. -/
def InputSpec.shape : Shape :=
  .fields (("schema", .fields (Shape.wholeFields InputSchema.fieldNames)) ::
    Shape.wholeFields InputSpec.fieldNames)

/-- What is of interest of a shared step. -/
def SharedDefinition.shape : Shape :=
  .fields (("inputs", .items InputSpec.shape) :: Shape.wholeFields SharedDefinition.fieldNames)

/-- Reads a workflow from a text. -/
def Definition.ofYaml? (text : String) : Option Definition := do
  Definition.ofNode? (← (← Document.yaml? text).read? Definition.shape)

/-- Reads a shared step from a text. -/
def SharedDefinition.ofYaml? (text : String) : Option SharedDefinition := do
  SharedDefinition.ofNode? (← (← Document.yaml? text).read? SharedDefinition.shape)

/-- Reads a workflow from a JSON value. -/
def Definition.ofValue? (v : Value) : Option Definition := Definition.ofNode? (.ofValue v)

/-- Reads a shared step from a JSON value. -/
def SharedDefinition.ofValue? (v : Value) : Option SharedDefinition :=
  SharedDefinition.ofNode? (.ofValue v)

end Runbook
