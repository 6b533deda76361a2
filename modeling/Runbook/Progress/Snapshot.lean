import Runbook.Json.Value
import Runbook.Progress

/-!
# Snapshots

A run's progress as a JSON value, and back.  A snapshot is such a value, and not the text it is
stored as.

* `Progress.toValue` writes every field, the innermost loop last;
* `Progress.ofValue?` reads them; a missing field that may be empty counts as empty, any other
  missing field is a fault, and unknown fields are passed over.
-/

namespace Runbook

/-- A number or null. -/
def Value.ofNat? : Option Nat → Value
  | some n => .int n
  | none => .null

namespace Saved

/-- A kept value as a record. -/
def toValue (s : Saved) : Value :=
  .ofFields [("name", .string s.name), ("value", s.value.getD .null)]

/-- Reads a kept value. -/
def ofValue? (v : Value) : Option Saved := do
  let field ← Json.record? ["name", "value"] v
  return ⟨← (← field "name").string?, ← Json.optional? some (field "value")⟩

end Saved

namespace Frame

/-- The names of the fields of a frame. -/
def fieldNames : List String := ["kind", "step", "entry_index", "cursor", "total", "saved"]

/-- A frame as a record. -/
def toValue (f : Frame) : Value :=
  .ofFields [("kind", .string f.kind.name), ("step", .string f.step), ("entry_index", .int f.entry),
    ("cursor", .int f.cursor), ("total", .ofNat? f.total),
    ("saved", .array (f.saved.map Saved.toValue))]

/-- Reads a frame. -/
def ofValue? (v : Value) : Option Frame := do
  let field ← Json.record? fieldNames v
  let kind ← Json.choice? LoopKind.name LoopKind.all (← field "kind")
  let step ← (← field "step").string?
  let entry ← Json.natural? (← field "entry_index")
  let cursor ← Json.natural? (← field "cursor")
  let total ← Json.optional? Json.natural? (field "total")
  let saved ← (← (← field "saved").array?).mapM Saved.ofValue?
  return ⟨kind, step, entry, cursor, total, saved⟩

end Frame

namespace Progress

/-- The names of the fields of a snapshot. -/
def fieldNames : List String :=
  ["variables", "current_step_index", "loop_stack", "signal", "completed", "error", "goto_target"]

/-- The progress without the variables, as a record. -/
def stateFields (p : Progress) : List (String × Value) :=
  [("current_step_index", .int p.stepIndex),
    ("loop_stack", .array (p.loops.reverse.map Frame.toValue)),
    ("signal", .string p.signal.name), ("completed", .bool p.completed),
    ("error", .ofString? p.error), ("goto_target", .ofString? p.jump)]

/-- The progress as a record. -/
def toValue (p : Progress) : Value :=
  .ofFields (("variables", .ofFields [("vars", .ofMap p.vars)]) :: p.stateFields)

/-- Reads the progress. -/
def ofValue? (v : Value) : Option Progress := do
  let field ← Json.record? fieldNames v
  let vars ← Json.record? ["vars"] (← field "variables")
  let bound := KeyMap.ofList (← (← vars "vars").fields?)
  let stepIndex ← Json.natural? (← field "current_step_index")
  let loops ← (← (← field "loop_stack").array?).mapM Frame.ofValue?
  let signal ← Json.choice? Signal.name Signal.all (← field "signal")
  let completed ← (← field "completed").bool?
  let error ← Json.optional? Value.string? (field "error")
  let jump ← Json.optional? Value.string? (field "goto_target")
  return ⟨bound, stepIndex, loops.reverse, signal, completed, error, jump⟩

end Progress

end Runbook
