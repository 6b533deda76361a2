import Runbook.Definition.Basic

/-!
# Writing definitions

A definition as a JSON value with every default filled in.  A step is one flat object: what all
steps have in common, the name of its tool under `tool`, and the tool's own fields.
-/

namespace Runbook

/-- A truth value, or null when there is none. -/
def Value.ofBool? : Option Bool → Value
  | some b => .bool b
  | none => .null

/-- An end of a range as a value. -/
def Bound.toValue : Bound → Value
  | .int i => .int i
  | .template s => .string s

/-- Texts by name as a value. -/
def Value.ofTexts (m : KeyMap String) : Value := .ofMap (m.map .string)

/-- What all steps have in common. -/
def Step.commonFields {T : Type} (s : Step T) : List (String × Value) :=
  [("name", .string s.name), ("when", .ofString? s.condition),
    ("on_error", .string s.onError.name), ("output_var", .ofString? s.outputVar),
    ("visible", .ofBool? s.visible), ("cwd", .ofString? s.cwd), ("model", .ofString? s.model)]

/-- The fields of a loop over items. -/
def ForeachLoop.fields (l : ForeachLoop) : List (String × Value) :=
  [("items", l.items), ("item_var", .string l.itemVar), ("index_var", .string l.indexVar),
    ("filter", .ofString? l.filter), ("sort_by", .ofString? l.sortBy),
    ("sort_order", .string l.sortOrder.name), ("until", .ofString? l.stopWhen)]

/-- The fields of a loop while a condition holds. -/
def WhileLoop.fields (l : WhileLoop) : List (String × Value) :=
  [("condition", .string l.condition), ("max_iterations", .int l.maxPasses),
    ("counter_var", .string l.counterVar), ("on_exhausted", .string l.onExhausted.name)]

/-- The fields of a loop over a range. -/
def RangeLoop.fields (l : RangeLoop) : List (String × Value) :=
  [("from", l.first.toValue), ("to", l.last.toValue), ("step", .int l.stride),
    ("var", .string l.var)]

/-- The fields of a loop until a pass succeeds. -/
def RetryLoop.fields (l : RetryLoop) : List (String × Value) :=
  [("max_attempts", .int l.maxAttempts), ("delay_ms", .int l.delay),
    ("until", .ofString? l.stopWhen), ("attempt_var", .string l.attemptVar),
    ("on_exhausted", .string l.onExhausted.name)]

/-- The fields of a call. -/
def SharedCall.fields (c : SharedCall) : List (String × Value) :=
  [("uses", .string c.uses), ("inputs", .ofMap c.inputs), ("outputs", .ofTexts c.outputs)]

mutual

/-- The fields of a tool. -/
def Tool.fields : Tool → List (String × Value)
  | .bash command timeout =>
    [("command", .string command), ("timeout_secs", timeout.elim .null (fun n => .int n))]
  | .agent text => [("prompt", .string text)]
  | .prompt text => [("prompt", .string text)]
  | .set var value parseJson =>
    [("var", .string var), ("value", value), ("parse_json", .bool parseJson)]
  | .log message level => [("message", .string message), ("level", .string level.name)]
  | .goto target => [("target", .string target)]
  | .leave => []
  | .next => []
  | .foreach loop steps => loop.fields ++ [("steps", .array (Tool.stepValues steps))]
  | .whilst loop steps => loop.fields ++ [("steps", .array (Tool.stepValues steps))]
  | .range loop steps => loop.fields ++ [("steps", .array (Tool.stepValues steps))]
  | .retry loop steps => loop.fields ++ [("steps", .array (Tool.stepValues steps))]
  | .shared call => call.fields
  | .adapter name params => [("adapter", .string name), ("params", params)]

/-- A step as a value. -/
def Tool.stepValue : Step Tool → Value
  | ⟨name, condition, onError, outputVar, visible, cwd, model, tool⟩ =>
    .ofFields ((⟨name, condition, onError, outputVar, visible, cwd, model, ()⟩ :
      Step Unit).commonFields ++ ("tool", .string tool.kind) :: Tool.fields tool)

/-- Steps as values. -/
def Tool.stepValues : List (Step Tool) → List Value
  | [] => []
  | s :: rest => Tool.stepValue s :: Tool.stepValues rest

end

/-- Defaults as a value. -/
def Defaults.toValue (d : Defaults) : Value :=
  .ofFields [("model", .ofString? d.model), ("permission_mode", .ofString? d.permissionMode),
    ("visible", .bool d.visible)]

/-- A workflow as a value. -/
def Definition.toValue (d : Definition) : Value :=
  .ofFields [("name", .string d.name), ("description", .ofString? d.description),
    ("version", .string d.version), ("variables", .ofMap d.vars),
    ("defaults", d.defaults.toValue), ("steps", .array (Tool.stepValues d.steps))]

/-- A schema as a value. -/
def InputSchema.toValue (s : InputSchema) : Value :=
  .ofFields [("type", .ofString? (s.type.map InputType.name)),
    ("enum", s.allowed.elim .null .array), ("pattern", .ofString? s.pattern)]

/-- An input as a value. -/
def InputSpec.toValue (i : InputSpec) : Value :=
  .ofFields [("name", .string i.name), ("required", .bool i.required),
    ("default", i.default.getD .null), ("schema", i.schema.elim .null InputSchema.toValue)]

/-- A shared step as a value. -/
def SharedDefinition.toValue (d : SharedDefinition) : Value :=
  .ofFields [("name", .string d.name), ("description", .ofString? d.description),
    ("inputs", .array (d.inputs.map InputSpec.toValue)), ("outputs", .ofTexts d.outputs),
    ("steps", .array (Tool.stepValues d.steps))]

end Runbook
