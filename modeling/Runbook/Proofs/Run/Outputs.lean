import Runbook.Proofs.KeyMap
import Runbook.Proofs.Run.Frames

/-!
# Outputs of shared steps

What a call exposes that ends well.  The outputs are read after the inputs of the caller are put
back.  So a path that leads into the inputs is followed into those of the caller, and any other one
is followed through the variables as the steps of the callee left them.

* `Variables.ReadsInputs` says which paths lead into the inputs;
* `resolve_putBack` and `resolve_putBack_inputs` follow a path after the inputs are put back;
* `Returned` says what is exposed, and what the variables of the caller get of it;
* `act_shared_returns` says that every call that ends well returns this way.
-/

namespace Runbook

/-- The path leads into the inputs, and not to a variable whose name is the whole path. -/
def Variables.ReadsInputs (vars : Variables) (path : String) : Prop :=
  path = Run.inputsVar ∨
    vars.find? path = none ∧ (Template.segments path.toList).head? = some Run.inputsVar.toList

namespace Run

open Portion

variable {W : Type} {caller : Variables} {t : RunState W} {path : String}

/-- Any path that does not lead into the inputs leads where it led before they were put back. -/
theorem resolve_putBack (h : ¬ t.progress.vars.ReadsInputs path) :
    (putBack caller t).progress.vars.resolve path = t.progress.vars.resolve path := by
  have hpath : path ≠ inputsVar := fun he => h (.inl he)
  unfold Variables.resolve
  rw [find?_putBack_of_ne caller t hpath]
  cases hfind : t.progress.vars.find? path with
  | some v => rfl
  | none =>
    cases hsegments : Template.segments path.toList with
    | nil => rfl
    | cons head rest =>
      have hhead : String.ofList head ≠ inputsVar := by
        intro he
        refine h (.inr ⟨hfind, ?_⟩)
        rw [hsegments, ← he, String.toList_ofList]
        rfl
      show ((putBack caller t).progress.vars.find? _).bind _ = _
      rw [find?_putBack_of_ne caller t hhead]

/-- A path into the inputs leads into those of the caller, once they are put back. -/
theorem resolve_putBack_inputs (h : t.progress.vars.ReadsInputs path) :
    (putBack caller t).progress.vars.resolve path =
      (caller.find? inputsVar).bind (walk · (Template.segments path.toList).tail) := by
  unfold Variables.resolve
  by_cases hpath : path = inputsVar
  · subst hpath
    rw [find?_putBack, show Template.segments inputsVar.toList = [inputsVar.toList] by decide]
    cases hfind : caller.find? inputsVar with
    | some v => rfl
    | none =>
      show ((putBack caller t).progress.vars.find? inputsVar).bind _ = none
      rw [find?_putBack, hfind]
      rfl
  · obtain ⟨hfind, hhead⟩ := h.resolve_left hpath
    obtain ⟨rest, hsegments⟩ := List.head?_eq_some_iff.1 hhead
    rw [find?_putBack_of_ne caller t hpath, hfind, hsegments]
    show ((putBack caller t).progress.vars.find? (String.ofList inputsVar.toList)).bind _ = _
    rw [String.ofList_toList, find?_putBack]
    rfl

/-! ## What a call returns -/

/-- What a call exposes, and what the variables are after it, given those of the caller and those
that the steps of the callee left. -/
structure Returned (sig : Signature) (outputs : KeyMap String) (caller left : Variables)
    (exposed : KeyMap Value) (after : Variables) : Prop where
  /-- The outputs are exposed, and nothing else. -/
  keys : exposed.keys = sig.outputs.keys
  /-- An output has the value that its path led to when the steps ended. -/
  own : ∀ name path, sig.outputs.find? name = some path → ¬ left.ReadsInputs path →
    exposed.find? name = some ((left.resolve path).getD .null)
  /-- Where the path leads into the inputs, it has the value there in the inputs of the caller. -/
  callers : ∀ name path, sig.outputs.find? name = some path → left.ReadsInputs path →
    exposed.find? name = some
      (((caller.find? inputsVar).bind (walk · (Template.segments path.toList).tail)).getD .null)
  /-- A call that asks for nothing gives every output to the variable of its name. -/
  all : outputs.size = 0 → ∀ name v, exposed.find? name = some v → after.find? name = some v
  /-- Any other gives the variables what it asks for. -/
  asked : ∀ var name, outputs.find? var = some name →
    after.find? var = some ((exposed.find? name).getD .null)

theorem find?_outputBindings_all {exposed : KeyMap Value} {outputs : KeyMap String}
    (h : outputs.size = 0) (name : String) :
    Entries.find? name (outputBindings exposed outputs) = exposed.find? name := by
  rw [outputBindings, if_pos h]
  rfl

theorem find?_outputBindings_asked {exposed : KeyMap Value} {outputs : KeyMap String}
    (h : outputs.size ≠ 0) (var : String) :
    Entries.find? var (outputBindings exposed outputs) =
      (outputs.find? var).map fun name => (exposed.find? name).getD .null := by
  rw [outputBindings, if_neg h]
  exact Entries.find?_mapValues (fun name => (exposed.find? name).getD .null) var outputs.entries

theorem nodup_outputBindings (exposed : KeyMap Value) (outputs : KeyMap String) :
    ((outputBindings exposed outputs).map Prod.fst).Nodup := by
  rw [outputBindings_names]
  split
  · exact exposed.nodup_keys
  · exact outputs.nodup_keys

/-- The outputs that are read from variables are bound as they were asked for. -/
theorem returned_collectOutputs (sig : Signature) (outputs : KeyMap String) (caller : Variables)
    (t : RunState W) :
    Returned sig outputs caller t.progress.vars
      (sig.collectOutputs (putBack caller t).progress.vars)
      ((putBack caller t).progress.vars.insertAll
        (outputBindings (sig.collectOutputs (putBack caller t).progress.vars) outputs)) := by
  have hexposed : ∀ name path, sig.outputs.find? name = some path →
      (sig.collectOutputs (putBack caller t).progress.vars).find? name =
        some (((putBack caller t).progress.vars.resolve path).getD .null) := by
    intro name path hpath
    rw [Signature.collectOutputs, KeyMap.find?_map, hpath]
    rfl
  constructor
  case keys => exact keys_collectOutputs sig _
  case own =>
    intro name path hpath hreads
    rw [hexposed name path hpath, resolve_putBack hreads]
  case callers =>
    intro name path hpath hreads
    rw [hexposed name path hpath, resolve_putBack_inputs hreads]
  case all =>
    intro hsize name v hv
    rw [KeyMap.find?_insertAll (nodup_outputBindings _ _), find?_outputBindings_all hsize, hv]
    rfl
  case asked =>
    intro var name hname
    have hsize : outputs.size ≠ 0 := by
      intro h0
      have hnil : outputs.entries = [] := List.eq_nil_of_length_eq_zero h0
      rw [KeyMap.find?, hnil] at hname
      cases hname
    rw [KeyMap.find?_insertAll (nodup_outputBindings _ _), find?_outputBindings_asked hsize, hname]
    rfl

section Call

variable {env : Setting W} {step : Step Unit} {callee : CompiledShared Action}
  {inputs : KeyMap Value} {outputs : KeyMap String} {index : Nat} {s u : RunState W} {v : Value}

/-- A call that ends well bound its inputs, and its steps came to their end. -/
theorem ended_of_act_shared
    (h : act env step (.shared callee inputs outputs) path index s = (.ok v, u)) :
    ∃ bound t, callee.signature.bindInputs inputs s.progress.vars = .ok bound ∧
      block env callee.body path (calling path callee.signature inputs bound s) = (.ok (), t) ∧
      copyOutputs callee.signature outputs (.ok ()) (putBack s.progress.vars t) = (.ok v, u) := by
  obtain ⟨key, sig, body, height⟩ := callee
  rw [act] at h
  cases hbound : sig.bindInputs inputs s.progress.vars with
  | error failure =>
    rw [runShared_error hbound] at h
    cases h
  | ok bound =>
    rw [runShared_ok hbound] at h
    rcases hbody : block env body path (calling path sig inputs bound s) with ⟨halt | _, t⟩
    · rw [← block, hbody] at h
      cases h
    · rw [← block, hbody] at h
      exact ⟨bound, t, rfl, hbody, h⟩

/-- **What a call returns**: a call of a shared step that ends well bound its inputs, and its steps
came to their end; the outputs are what these left, except those that are read from the inputs,
which are what the caller has there. -/
theorem act_shared_returns
    (h : act env step (.shared callee inputs outputs) path index s = (.ok v, u)) :
    ∃ bound exposed t,
      callee.signature.bindInputs inputs s.progress.vars = .ok bound ∧
      block env callee.body path (calling path callee.signature inputs bound s) = (.ok (), t) ∧
      v = .ofMap exposed ∧
      Returned callee.signature outputs s.progress.vars t.progress.vars exposed u.progress.vars := by
  obtain ⟨bound, t, hbound, hbody, hcopied⟩ := ended_of_act_shared h
  cases hcopied
  exact ⟨bound, _, t, hbound, hbody, rfl, returned_collectOutputs _ outputs _ t⟩

end Call

/-- A shared step that sets an answer, and exposes it with what the step was told. -/
def answering : CompiledShared Action where
  key := "project:answering"
  signature := ⟨"answering", [], .ofList [("answer", "reply"), ("told", "inputs.text")]⟩
  body := [⟨"reply", none, .stop, none, none, none, none, .set "reply" (.string "well") false⟩]
  height := 1

/-- The step that calls it. -/
def asking : Step Unit := ⟨"ask", none, .stop, none, none, none, none, ()⟩

/-- What the step is told. -/
def greeting : KeyMap Value := .ofList [("text", .string "hello")]

/-- A run without variables, in which the step is called. -/
def beforeAsking : RunState Unit := ⟨.start .empty, [], [], ⟨"", 0, .empty⟩, ()⟩

/-- What the call comes to. -/
def asked : Except Halt Value × RunState Unit :=
  act (bareSetting 10) asking (.shared answering greeting .empty) "ask" 0 beforeAsking

theorem asked_ok :
    asked.1 = .ok (.ofFields [("answer", .string "well"), ("told", .null)]) := by
  decide +kernel

theorem act_shared_returns_asked :
    asked.1 = .ok (.ofFields [("answer", .string "well"), ("told", .null)]) ∧
      ∃ bound exposed t,
        answering.signature.bindInputs greeting beforeAsking.progress.vars = .ok bound ∧
        block (bareSetting 10) answering.body "ask"
          (calling "ask" answering.signature greeting bound beforeAsking) = (.ok (), t) ∧
        Returned answering.signature .empty beforeAsking.progress.vars t.progress.vars exposed
          asked.2.progress.vars := by
  obtain ⟨bound, exposed, t, hbound, hbody, -, hreturned⟩ :=
    act_shared_returns (W := Unit) (show asked = (_, asked.2) from Prod.ext asked_ok rfl)
  exact ⟨asked_ok, bound, exposed, t, hbound, hbody, hreturned⟩

/-- The steps leave what they were told where the output `told` looks for it, and yet null is
exposed. -/
theorem asked_forgets :
    let left := block (bareSetting 10) answering.body "ask"
      (calling "ask" answering.signature greeting greeting beforeAsking)
    answering.signature.bindInputs greeting beforeAsking.progress.vars = .ok greeting ∧
      left.1 = .ok () ∧ left.2.progress.vars.resolve "inputs.text" = some (.string "hello") ∧
      asked.1 = .ok (.ofFields [("answer", .string "well"), ("told", .null)]) :=
  ⟨by decide +kernel, by decide +kernel, by decide +kernel, asked_ok⟩

end Run

end Runbook
