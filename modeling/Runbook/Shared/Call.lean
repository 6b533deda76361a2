import Runbook.Failure
import Runbook.Log
import Runbook.Shared.Schema

/-!
# Calls of shared steps

What passes between a shared step and its caller.

* `Signature` is what a caller sees of a shared step: its name, inputs and outputs;
* `Signature.checkCall` checks a call before anything runs, as far as its inputs are literal;
* `Signature.bindInputs` gives the inputs of a call their values;
* `Signature.collectOutputs` reads the outputs when the steps are done.
-/

namespace Runbook

/-- What a caller sees of a shared step. -/
structure Signature where
  /-- The name. -/
  name : String
  /-- The inputs. -/
  inputs : List InputSpec
  /-- The path of each output, by its name. -/
  outputs : KeyMap String
  deriving DecidableEq

/-- A value brought to its final form by a schema, if there is one. -/
def InputSpec.check (input : InputSpec) (shared : String) (v : Value) : Except Failure Value :=
  match input.schema with
  | none => .ok v
  | some schema => (schema.check v).mapError (.schemaMismatch shared input.name)

/-- The value of an input: one placeholder stands for the value itself, any other text is filled,
and so is every text inside a value. -/
def resolveInput (vars : Variables) (raw : Value) : Value :=
  match raw with
  | .string s =>
    match lonePath? s with
    | some path => (vars.resolve path).getD (.string "")
    | none => .string (vars.interpolate s)
  | other => vars.interpolateValue other

namespace Signature

/-- Checks one input of a call. -/
def checkInput (sig : Signature) (call : SharedCall) (input : InputSpec) : Except Failure Unit :=
  match call.inputs.find? input.name with
  | none =>
    if input.required && input.default.isNone then .error (.missingInput sig.name input.name)
    else .ok ()
  | some v => if hasPlaceholders v then .ok () else (input.check sig.name v).map (fun _ => ())

/-- Checks that an output is one of those that there are. -/
def checkOutput (sig : Signature) (step output : String) : Except Failure Unit :=
  if sig.outputs.contains output then .ok ()
  else .error (.invalidStep step
    s!"shared step '{sig.name}' has no output named '{output}'")

/-- Checks a call before anything runs. -/
def checkCall (sig : Signature) (step : String) (call : SharedCall) : Except Failure Unit := do
  sig.inputs.forM (sig.checkInput call)
  call.outputs.values.forM (sig.checkOutput step)

/-- The value of a declared input, none if it is neither given nor has a default. -/
def inputValue (sig : Signature) (provided : KeyMap Value) (vars : Variables)
    (input : InputSpec) : Except Failure (Option Value) :=
  match provided.find? input.name with
  | some raw => (input.check sig.name (resolveInput vars raw)).map some
  | none =>
    match input.default with
    | some default => (input.check sig.name default).map some
    | none =>
      if input.required then .error (.missingInput sig.name input.name) else .ok none

/-- Binds the declared inputs in order. -/
def bindDeclared (sig : Signature) (provided : KeyMap Value) (vars : Variables) :
    KeyMap Value → List InputSpec → Except Failure (KeyMap Value)
  | bound, [] => .ok bound
  | bound, input :: rest => do
    match ← sig.inputValue provided vars input with
    | some v => bindDeclared sig provided vars (bound.insert input.name v) rest
    | none => bindDeclared sig provided vars bound rest

/-- The inputs that are given but not declared. -/
def undeclared (sig : Signature) (provided : KeyMap Value) : List (String × Value) :=
  provided.entries.filter (fun (name, _) => !sig.inputs.any (·.name == name))

/-- Gives the inputs of a call their values. -/
def bindInputs (sig : Signature) (provided : KeyMap Value) (vars : Variables) :
    Except Failure (KeyMap Value) := do
  let bound ← sig.bindDeclared provided vars .empty sig.inputs
  return bound.insertAll
    ((sig.undeclared provided).map (fun (name, raw) => (name, resolveInput vars raw)))

/-- One log line for each input that is given but not declared. -/
def undeclaredNotes (sig : Signature) (provided : KeyMap Value) : List LogLine :=
  (sig.undeclared provided).map (fun (name, _) =>
    LogLine.debug s!"[Shared] '{sig.name}' passes undeclared input '{name}'")

/-- The outputs by name; one whose path leads nowhere is null. -/
def collectOutputs (sig : Signature) (vars : Variables) : KeyMap Value :=
  sig.outputs.map (fun path => (vars.resolve path).getD .null)

end Signature

end Runbook
