import Runbook.Proofs.Definition.Reread

/-!
# Definitions return from what is written of them

A definition that was read, from whatever document, and written with all its defaults is read again.

A step is written as one flat record, the fields that all steps have beside those of its tool, and
read again from there:

* `Tool.flatFields` is the record; its names differ, and none is a second name of a field;
* `Tool.ownFields?_keptFields`, `Tool.filter_tool_ownFields` and `Tool.carry_ownFields` follow the
  reader that takes the record apart;
* `Tool.stepOfNode?_stepValue` is about one step;
* `Tool.stepsOfNode?_stepValues` follows the steps into the bodies of loops, and `rereads_steps` is
  about all steps of a definition.

A definition is a record that has steps:

* `Definition.rereads` is about workflows;
* `SharedDefinition.ofNode?_toValue` is about shared steps, whose inputs lose a default that is
  null, and `SharedDefinition.forgetNulls_eq_self_iff` says when nothing is lost;
* `Definition.survives` is about both;
* `SharedDefinition.scaleText_changed` is about a shared step that does not return as it was.
-/

namespace Runbook

open Node

/-! ## The fields of a step -/

/-- The names of the fields of each tool. -/
def Tool.fieldNames : String → List String
  | "bash" => ["command", "timeout_secs"]
  | "agent" => ["prompt"]
  | "prompt" => ["prompt"]
  | "set" => ["var", "value", "parse_json"]
  | "log" => ["message", "level"]
  | "goto" => ["target"]
  | "foreach" =>
    ["items", "item_var", "index_var", "filter", "sort_by", "sort_order", "until", "steps"]
  | "while" => ["condition", "max_iterations", "counter_var", "on_exhausted", "steps"]
  | "range" => ["from", "to", "step", "var", "steps"]
  | "retry" => ["max_attempts", "delay_ms", "until", "attempt_var", "on_exhausted", "steps"]
  | "shared" => ["uses", "inputs", "outputs"]
  | "adapter" => ["adapter", "params"]
  | _ => []

theorem Tool.map_fst_fields (t : Tool) : t.fields.map Prod.fst = fieldNames t.kind := by
  cases t <;> rfl

theorem Tool.kind_mem_kinds (t : Tool) : t.kind ∈ kinds := by
  cases t <;> simp [kind, kinds]

/-- The fields of a step, as they are written. -/
def Tool.flatFields (s : StepDefinition) : List (String × Value) :=
  s.commonFields ++ ("tool", .string s.tool.kind) :: s.tool.fields

theorem Tool.stepValue_eq (s : StepDefinition) : stepValue s = .ofFields (flatFields s) := by
  cases s
  rw [stepValue]
  rfl

/-- The names that all steps are written with. -/
def Step.commonNames : List String := Step.fieldNames.map fun names => names.headD ""

theorem Tool.map_fst_flatFields (s : StepDefinition) :
    (flatFields s).map Prod.fst = Step.commonNames ++ "tool" :: fieldNames s.tool.kind := by
  rw [flatFields, List.map_append, List.map_cons, s.tool.map_fst_fields]
  rfl

theorem Tool.nodup_flatFields (s : StepDefinition) : ((flatFields s).map Prod.fst).Nodup := by
  have hall : ∀ kind ∈ kinds, (Step.commonNames ++ "tool" :: fieldNames kind).Nodup := by decide
  rw [map_fst_flatFields]
  exact hall _ s.tool.kind_mem_kinds

/-- The second names that some fields have for readers are not written. -/
theorem Tool.notMem_flatFields (s : StepDefinition) {names : List String}
    (h : names ∈ Step.fieldNames) {name : String} (hname : name ∈ names.tail) :
    name ∉ (flatFields s).map Prod.fst := by
  have hall : ∀ kind ∈ kinds, ∀ names ∈ Step.fieldNames, ∀ name ∈ names.tail,
      name ∉ Step.commonNames ++ "tool" :: fieldNames kind := by decide
  rw [map_fst_flatFields]
  exact hall _ s.tool.kind_mem_kinds names h name hname

/-! ## Steps -/

section

variable {mark : Mark} {entries : List (String × Value)}

/-- A field with several names, of which only the first is there. -/
theorem Step.field?_fieldsOf (h : (entries.map Prod.fst).Nodup) {name : String}
    {others : List String} (hothers : ∀ other ∈ others, other ∉ entries.map Prod.fst) :
    field? (fieldsOf mark entries) (name :: others)
      = some ((Entries.find? name entries).map (ofValueAs mark)) := by
  have hfilter : (entries.filter fun e => e.1 == name || others.contains e.1)
      = entries.filter fun e => e.1 == name := by
    refine List.filter_congr fun e he => ?_
    have hother : others.contains e.1 = false := by
      refine Bool.eq_false_iff.2 fun hmem => ?_
      exact hothers e.1 (List.contains_iff_mem.1 hmem) (List.mem_map_of_mem he)
    rw [hother, Bool.or_false]
  rw [field?, filter_fieldsOf (·.isOneOf (name :: others)) (fun n => n == name || others.contains n)
    fun _ => rfl, hfilter, Entries.filter_name h]
  cases Entries.find? name entries <;> rfl

theorem ToolFields.take?_fieldsOf (h : (entries.map Prod.fst).Nodup) (names : List String) :
    take? (fieldsOf mark entries) names
      = some (names.map fun name => (Entries.find? name entries).map (ofValueAs mark)) :=
  mapM_field?_fieldsOf h names

theorem mapM_typed?_fieldsOf (h : isPlainMark mark = true) :
    (fieldsOf mark entries).mapM (fun (k, v) => do return (k, ← v.typed?))
      = some (fieldsOf .typed entries) :=
  mapM_map_eq_some fun e _ => bind_of_eq_some (typed?_ofValueAs h e.2) _

end

namespace Tool

variable {mark : Mark} {steps steps' : StepsReader} {s : StepDefinition}

/-- The fields of a step, as a map has them. -/
def keptFields (s : StepDefinition) : List (String × Value) :=
  (KeyMap.ofList (flatFields s)).entries

theorem find?_keptFields (name : String) :
    Entries.find? name (keptFields s) = Entries.find? name (flatFields s) :=
  KeyMap.find?_ofList (nodup_flatFields s)

theorem nodup_keptFields : ((keptFields s).map Prod.fst).Nodup := KeyMap.nodup_keys _

/-- The fields of a step that are its tool's, with the name of the tool. -/
def ownFields (s : StepDefinition) : List (String × Value) :=
  (keptFields s).filter fun e => !Step.fieldNames.flatten.contains e.1

theorem nodup_ownFields : ((ownFields s).map Prod.fst).Nodup :=
  Entries.nodup_filter nodup_keptFields _

theorem find?_ownFields {name : String} (h : name ∉ Step.fieldNames.flatten) :
    Entries.find? name (ownFields s)
      = Entries.find? name (("tool", .string s.tool.kind) :: s.tool.fields) := by
  have hcommon : name ∉ s.commonFields.map Prod.fst := fun hmem =>
    h ((show Step.commonNames ⊆ Step.fieldNames.flatten by decide) hmem)
  have hkept : (!Step.fieldNames.flatten.contains name) = true := by simpa using h
  have hfind : Entries.find? name (ownFields s) = Entries.find? name (keptFields s) :=
    Entries.find?_filter (fun name => !Step.fieldNames.flatten.contains name) hkept
  rw [hfind, find?_keptFields, flatFields, Entries.find?_append_of_notMem hcommon]

/-- The common fields of a step are found. -/
theorem mapM_field?_keptFields : Step.fieldNames.mapM (Step.field? (fieldsOf mark (keptFields s)))
    = some (Step.fieldNames.map fun names =>
        (Entries.find? (names.headD "") (flatFields s)).map (ofValueAs mark)) := by
  refine mapM_eq_some_map fun names hnames => ?_
  obtain ⟨name, others, rfl⟩ : ∃ name others, names = name :: others :=
    (show ∀ names ∈ Step.fieldNames, ∃ name others, names = name :: others by
      simp [Step.fieldNames]) names hnames
  have hothers : ∀ other ∈ others, other ∉ (keptFields s).map Prod.fst := by
    intro other hother hmem
    obtain ⟨e, he, rfl⟩ := List.mem_map.1 hmem
    exact notMem_flatFields s hnames hother (List.mem_map_of_mem (KeyMap.mem_of_mem_ofList he))
  rw [Step.field?_fieldsOf nodup_keptFields hothers, find?_keptFields]
  rfl

/-- The fields of a step that are its tool's are found, and typed. -/
theorem ownFields?_keptFields (hmark : isPlainMark mark = true) :
    Step.ownFields? (fieldsOf mark (keptFields s)) = some (fieldsOf .typed (ownFields s)) := by
  rw [Step.ownFields?, filter_fieldsOf (fun k => !k.isOneOf Step.fieldNames.flatten)
    (fun name => !Step.fieldNames.flatten.contains name) fun _ => rfl]
  exact mapM_typed?_fieldsOf hmark

/-- The name of the tool is found. -/
theorem filter_tool_ownFields :
    (fieldsOf .typed (ownFields s)).filter (fun (k, _) => k.isOneOf ["tool"])
      = [(.name "tool", .scalar (.text s.tool.kind))] := by
  have htool : "tool" ∉ Step.fieldNames.flatten := by decide
  rw [filter_fieldsOf (·.isOneOf ["tool"]) (· == "tool") fun _ => Bool.or_false _,
    Entries.filter_name nodup_ownFields, find?_ownFields htool]
  rfl

/-- The fields of the tool are left. -/
theorem carry_ownFields : ToolFields.Carry .typed s.tool.fields
    ((fieldsOf .typed (ownFields s)).filter fun (k, _) => !k.isOneOf ["tool"]) := by
  intro names hnames
  rw [filter_fieldsOf (fun k => !k.isOneOf ["tool"]) (fun name => !(["tool"].contains name))
    fun _ => rfl, ToolFields.take?_fieldsOf (Entries.nodup_filter nodup_ownFields _)]
  refine congrArg some (List.map_congr_left fun name hname => congrArg _ ?_)
  obtain ⟨htool, hcommon⟩ := not_or.1 (mt List.mem_cons.2 (hnames name hname))
  have hkept : (!(["tool"].contains name)) = true := by simpa using htool
  rw [Entries.find?_filter (fun name => !(["tool"].contains name)) hkept, find?_ownFields hcommon,
    Entries.find?, if_neg (Ne.symm htool)]

/-- A step is read again; if it is a loop, its steps are read by a reader that reads them again. -/
theorem stepOfNode?_stepValue {n : Node} (h : stepOfNode? steps n = some s)
    (hmark : isPlainMark mark = true)
    (hsteps : ∀ body, Entries.find? "steps" s.tool.fields = some (.array (stepValues body)) →
      StepsReader.PassesOn steps steps' body (ofValueAs .typed (.array (stepValues body)))) :
    stepOfNode? steps' (ofValueAs mark (stepValue s)) = some s := by
  rw [stepOfNode?.eq_def] at h
  split at h
  case h_1 => cases h
  obtain ⟨given, -, h⟩ := Option.bind_eq_some_iff.1 h
  obtain ⟨common, -, h⟩ := Option.bind_eq_some_iff.1 h
  split at h
  case h_2 => cases h
  obtain ⟨own, -, h⟩ := Option.bind_eq_some_iff.1 h
  simp only at h
  split at h
  case h_2 => cases h
  obtain ⟨name, hname, h⟩ := Option.bind_eq_some_iff.1 h
  obtain ⟨condition, hcondition, h⟩ := Option.bind_eq_some_iff.1 h
  obtain ⟨onError, honError, h⟩ := Option.bind_eq_some_iff.1 h
  obtain ⟨outputVar, houtputVar, h⟩ := Option.bind_eq_some_iff.1 h
  obtain ⟨visible, hvisible, h⟩ := Option.bind_eq_some_iff.1 h
  obtain ⟨cwd, hcwd, h⟩ := Option.bind_eq_some_iff.1 h
  obtain ⟨model, hmodel, h⟩ := Option.bind_eq_some_iff.1 h
  obtain ⟨kind, -, h⟩ := Option.bind_eq_some_iff.1 h
  obtain ⟨tool, htool, h⟩ := Option.bind_eq_some_iff.1 h
  cases h
  have hcarry :=
    carry_ownFields (s := ⟨name, condition, onError, outputVar, visible, cwd, model, tool⟩)
  have hagain : ofFields? steps' tool.kind _ = some tool := Tool.reread htool rfl hsteps hcarry
  rw [stepValue_eq]
  refine (bind_of_eq_some fields?_object _).trans ?_
  refine (bind_of_eq_some mapM_field?_keptFields _).trans ?_
  refine (bind_of_eq_some (ownFields?_keptFields hmark) _).trans ?_
  rw [filter_tool_ownFields]
  refine (bind_of_eq_some (rereads_text.required hname hmark) _).trans ?_
  refine (bind_of_eq_some (rereads_text? hcondition hmark) _).trans ?_
  refine (bind_of_eq_some ((OnError.rereads.defaulted fun _ _ => rfl) honError hmark) _).trans ?_
  refine (bind_of_eq_some (rereads_text? houtputVar hmark) _).trans ?_
  refine (bind_of_eq_some (rereads_truth? hvisible hmark) _).trans ?_
  refine (bind_of_eq_some (rereads_text? hcwd hmark) _).trans ?_
  refine (bind_of_eq_some (rereads_text? hmodel hmark) _).trans ?_
  have hkind : kindOf? (.scalar (.text tool.kind)) = some tool.kind := rfl
  exact (bind_of_eq_some hkind _).trans (bind_of_eq_some hagain _)

/-! ## Lists of steps -/

theorem stepValues_eq_map (body : List StepDefinition) : stepValues body = body.map stepValue := by
  induction body with
  | nil => rfl
  | cons s rest ih => rw [stepValues, ih, List.map_cons]

/-- The steps inside a loop lie deeper. -/
theorem depth_steps_lt {v : Value} (h : Entries.find? "steps" s.tool.fields = some v) :
    depth (ofValueAs mark v) < depth (ofValueAs mark (stepValue s)) := by
  have hsteps : "steps" ∉ Step.fieldNames.flatten := by decide
  have hown : Entries.find? "steps" (ownFields s) = some v := (find?_ownFields hsteps).trans h
  have hmem : ("steps", v) ∈ keptFields s :=
    (List.mem_filter.1 (Entries.mem_of_find?_eq_some hown)).1
  rw [stepValue_eq]
  exact Nat.lt_succ_of_le (depth_le_depthEntries hmem)

/-- Steps are read again, by a reader that may look as deep as they lie. -/
theorem stepsOfNode?_stepValues {fuel : Nat} : ∀ {n : Node} {body : List StepDefinition},
    stepsOfNode? fuel n = some body → ∀ {mark : Mark}, isPlainMark mark = true →
      ∀ {fuel' : Nat}, depth (ofValueAs mark (.array (stepValues body))) < fuel' →
        stepsOfNode? fuel' (ofValueAs mark (.array (stepValues body))) = some body := by
  -- The fuel of the first reading shrinks with the nesting of what was read, and the depth of what
  -- is written with the nesting of the steps, so the fuel of the second reading stays free.
  induction fuel with
  | zero =>
    intro n body h
    cases h
  | succ fuel ih =>
    intro n body h mark hmark fuel' hdepth
    obtain ⟨items, -, h⟩ := Option.bind_eq_some_iff.1 h
    obtain ⟨fuel', rfl⟩ := Nat.exists_eq_succ_of_ne_zero (Nat.ne_zero_of_lt hdepth)
    show (ofValuesAs mark (stepValues body)).mapM (stepOfNode? (stepsOfNode? fuel')) = _
    rw [stepValues_eq_map, mapM_ofValuesAs fun s hs => ?_, List.map_id]
    obtain ⟨m, -, hm⟩ := exists_of_mem_mapM h hs
    refine stepOfNode?_stepValue hm hmark fun inner hinner field hfield => ?_
    obtain ⟨k, hk⟩ : ∃ k, stepsOfNode? fuel k = some inner := by
      cases field with
      | none => cases hfield
      | some k => exact ⟨k, hfield⟩
    have hmem : stepValue s ∈ stepValues body := stepValues_eq_map body ▸ List.mem_map_of_mem hs
    have hle : depth (ofValueAs mark (stepValue s))
        ≤ depthItems (ofValuesAs mark (stepValues body)) := depth_le_depthItems hmem
    have hlt : depth (ofValueAs mark (.array (stepValues inner)))
        < depth (ofValueAs mark (stepValue s)) := depth_steps_lt hinner
    have hinside : depthItems (ofValuesAs mark (stepValues body)) < fuel' :=
      Nat.lt_of_succ_lt_succ hdepth
    refine ih hk rfl ?_
    rw [depth_ofValueAs mark]
    exact Nat.lt_of_lt_of_le hlt (Nat.le_trans hle (Nat.le_of_lt hinside))

end Tool

theorem rereads_steps : Rereads readSteps? (fun body => .array (Tool.stepValues body)) :=
  fun _ _ h _ hmark => Tool.stepsOfNode?_stepValues h hmark (Nat.lt_succ_self _)

/-! ## Workflows -/

/-- A workflow is read again. -/
theorem Definition.rereads : Rereads ofNode? toValue := by
  intro n d h mark hmark
  obtain ⟨given, -, h⟩ := Option.bind_eq_some_iff.1 h
  split at h
  case h_2 => cases h
  obtain ⟨name, hname, h⟩ := Option.bind_eq_some_iff.1 h
  obtain ⟨description, hdescription, h⟩ := Option.bind_eq_some_iff.1 h
  obtain ⟨version, hversion, h⟩ := Option.bind_eq_some_iff.1 h
  obtain ⟨vars, hvars, h⟩ := Option.bind_eq_some_iff.1 h
  obtain ⟨defaults, hdefaults, h⟩ := Option.bind_eq_some_iff.1 h
  obtain ⟨steps, hsteps, h⟩ := Option.bind_eq_some_iff.1 h
  cases h
  have hnames : fieldNames.Nodup := by decide
  have hrecord : record? fieldNames 6
      (ofValueAs mark (toValue ⟨name, description, version, vars, defaults, steps⟩)) = _ :=
    record?_ofFields _ _ hnames
  refine (bind_of_eq_some hrecord _).trans ?_
  refine (bind_of_eq_some (rereads_text.required hname hmark) _).trans ?_
  refine (bind_of_eq_some (rereads_text? hdescription hmark) _).trans ?_
  refine (bind_of_eq_some (rereads_textOr _ hversion hmark) _).trans ?_
  refine (bind_of_eq_some ((rereads_valueMap.defaulted fun _ _ => rfl) hvars hmark) _).trans ?_
  refine (bind_of_eq_some
    ((Defaults.rereads.defaulted fun _ _ => rfl) hdefaults hmark) _).trans ?_
  exact bind_of_eq_some (rereads_steps.required hsteps hmark) _

/-! ## Shared steps -/

/-- An input as it is read again: a default that is null is as good as none. -/
def InputSpec.forgetNull (i : InputSpec) : InputSpec :=
  { i with default := i.default.filter (· ≠ .null) }

/-- A shared step as it is read again. -/
def SharedDefinition.forgetNulls (d : SharedDefinition) : SharedDefinition :=
  { d with inputs := d.inputs.map InputSpec.forgetNull }

theorem isAbsent?_ofValueAs {mark : Mark} {v : Value} (h : v ≠ .null) :
    isAbsent? (ofValueAs mark v) = some false := by
  rcases v with _ | _ | (_ | _) | _ | _ | _
  case null => exact absurd rfl h
  all_goals rfl

/-- A default is read again, unless it is null. -/
theorem reread_default {field : Option Node} {default : Option Value} {mark : Mark}
    (h : optional? Node.value? field = some default) (hmark : isPlainMark mark = true) :
    optional? Node.value? (some (ofValueAs mark (default.getD .null)))
      = some (default.filter (· ≠ .null)) := by
  cases default with
  | none => rfl
  | some v =>
    obtain ⟨n, hn⟩ := exists_of_optional? h
    by_cases hv : v = .null
    · subst hv
      rfl
    · rw [filter_null_eq_self_iff.2 fun h => hv (Option.some.inj h)]
      exact optional?_some (isAbsent?_ofValueAs hv) (rereads_value hn hmark)

/-- An input is read again, but for a default that is null. -/
theorem InputSpec.ofNode?_toValue {n : Node} {i : InputSpec} {mark : Mark} (h : ofNode? n = some i)
    (hmark : isPlainMark mark = true) : ofNode? (ofValueAs mark i.toValue) = some i.forgetNull := by
  obtain ⟨given, -, h⟩ := Option.bind_eq_some_iff.1 h
  split at h
  case h_2 => cases h
  obtain ⟨name, hname, h⟩ := Option.bind_eq_some_iff.1 h
  obtain ⟨required, hrequired, h⟩ := Option.bind_eq_some_iff.1 h
  obtain ⟨default, hdefault, h⟩ := Option.bind_eq_some_iff.1 h
  obtain ⟨schema, hschema, h⟩ := Option.bind_eq_some_iff.1 h
  cases h
  have hnames : fieldNames.Nodup := by decide
  have hrecord : record? fieldNames 1
      (ofValueAs mark (toValue ⟨name, required, default, schema⟩)) = _ :=
    record?_ofFields _ _ hnames
  refine (bind_of_eq_some hrecord _).trans ?_
  refine (bind_of_eq_some (rereads_text.required hname hmark) _).trans ?_
  refine (bind_of_eq_some (rereads_truthOr _ hrequired hmark) _).trans ?_
  refine (bind_of_eq_some (reread_default hdefault hmark) _).trans ?_
  exact bind_of_eq_some ((InputSchema.rereads.optional fun _ _ => rfl) hschema hmark) _

/-- Inputs are read again, but for defaults that are null. -/
theorem reread_inputs {field : Option Node} {inputs : List InputSpec} {mark : Mark}
    (h : defaulted? (fun n => do (← n.items?).mapM InputSpec.ofNode?) [] field = some inputs)
    (hmark : isPlainMark mark = true) :
    (ofValuesAs mark (inputs.map InputSpec.toValue)).mapM InputSpec.ofNode?
      = some (inputs.map InputSpec.forgetNull) := by
  refine mapM_ofValuesAs fun i hi => ?_
  cases field with
  | none =>
    cases h
    exact absurd hi List.not_mem_nil
  | some n =>
    obtain ⟨items, -, h⟩ := Option.bind_eq_some_iff.1 h
    obtain ⟨n, -, hn⟩ := exists_of_mem_mapM h hi
    exact InputSpec.ofNode?_toValue hn hmark

/-- A shared step is read again, but for defaults that are null. -/
theorem SharedDefinition.ofNode?_toValue {n : Node} {d : SharedDefinition} {mark : Mark}
    (h : ofNode? n = some d) (hmark : isPlainMark mark = true) :
    ofNode? (ofValueAs mark d.toValue) = some d.forgetNulls := by
  obtain ⟨given, -, h⟩ := Option.bind_eq_some_iff.1 h
  split at h
  case h_2 => cases h
  obtain ⟨name, hname, h⟩ := Option.bind_eq_some_iff.1 h
  obtain ⟨description, hdescription, h⟩ := Option.bind_eq_some_iff.1 h
  obtain ⟨inputs, hinputs, h⟩ := Option.bind_eq_some_iff.1 h
  obtain ⟨outputs, houtputs, h⟩ := Option.bind_eq_some_iff.1 h
  obtain ⟨steps, hsteps, h⟩ := Option.bind_eq_some_iff.1 h
  cases h
  have hnames : fieldNames.Nodup := by decide
  have hrecord : record? fieldNames 5
      (ofValueAs mark (toValue ⟨name, description, inputs, outputs, steps⟩)) = _ :=
    record?_ofFields _ _ hnames
  refine (bind_of_eq_some hrecord _).trans ?_
  refine (bind_of_eq_some (rereads_text.required hname hmark) _).trans ?_
  refine (bind_of_eq_some (rereads_text? hdescription hmark) _).trans ?_
  refine (bind_of_eq_some (reread_inputs hinputs hmark) _).trans ?_
  refine (bind_of_eq_some ((rereads_textMap.defaulted fun _ _ => rfl) houtputs hmark) _).trans ?_
  exact bind_of_eq_some (rereads_steps.required hsteps hmark) _

theorem InputSpec.forgetNull_eq_self_iff (i : InputSpec) :
    i.forgetNull = i ↔ i.default ≠ some .null := by
  have hdefault : i.forgetNull = i ↔ i.default.filter (· ≠ .null) = i.default :=
    ⟨fun h => congrArg InputSpec.default h, fun h => by rw [forgetNull, h]⟩
  rw [hdefault, filter_null_eq_self_iff]

/-- Only defaults that are null get lost. -/
theorem SharedDefinition.forgetNulls_eq_self_iff (d : SharedDefinition) :
    d.forgetNulls = d ↔ ∀ i ∈ d.inputs, i.default ≠ some .null := by
  have hinputs : d.forgetNulls = d ↔ d.inputs.map InputSpec.forgetNull = d.inputs :=
    ⟨fun h => congrArg SharedDefinition.inputs h, fun h => by rw [forgetNulls, h]⟩
  rw [hinputs, map_eq_self_iff]
  exact forall₂_congr fun i _ => i.forgetNull_eq_self_iff

/-! ## All definitions -/

/-- Whatever document a definition was read from, it returns from what is written of it: a workflow
as it was, and a shared step but for defaults that are null, each of which returns as no default. -/
theorem Definition.survives (n : Node) :
    (∀ d, Definition.ofNode? n = some d → Definition.ofValue? d.toValue = some d) ∧
    ∀ d, SharedDefinition.ofNode? n = some d →
      SharedDefinition.ofValue? d.toValue = some d.forgetNulls ∧
        (d.forgetNulls = d ↔ ∀ i ∈ d.inputs, i.default ≠ some .null) := by
  refine ⟨fun d h => ?_, fun d h => ⟨?_, d.forgetNulls_eq_self_iff⟩⟩
  · rw [Definition.ofValue?, ofValue_eq]
    exact Definition.rereads h rfl
  · rw [SharedDefinition.ofValue?, ofValue_eq]
    exact SharedDefinition.ofNode?_toValue h rfl

/-- A text is read as a document first. -/
theorem Definition.exists_node {text : String} {d : Definition} (h : ofYaml? text = some d) :
    ∃ n, ofNode? n = some d := by
  obtain ⟨document, -, h⟩ := Option.bind_eq_some_iff.1 h
  obtain ⟨n, -, h⟩ := Option.bind_eq_some_iff.1 h
  exact ⟨n, h⟩

theorem SharedDefinition.exists_node {text : String} {d : SharedDefinition}
    (h : ofYaml? text = some d) : ∃ n, ofNode? n = some d := by
  obtain ⟨document, -, h⟩ := Option.bind_eq_some_iff.1 h
  obtain ⟨n, -, h⟩ := Option.bind_eq_some_iff.1 h
  exact ⟨n, h⟩

/-- A shared step with an input whose default is not a number, and so is null. -/
def SharedDefinition.scaleText : String :=
  "name: scale\ninputs:\n- name: factor\n  default: .nan\nsteps: []\n"

theorem SharedDefinition.ofYaml?_scaleText :
    ∃ d, ofYaml? scaleText = some d ∧ ∃ i ∈ d.inputs, i.default = some .null := by
  have h : (ofYaml? scaleText).any
      (fun d => d.inputs.any fun i => i.default.any (· == .null)) = true := by
    decide +kernel
  obtain ⟨d, hd, hinputs⟩ := (Option.any_eq_true _ _).1 h
  obtain ⟨i, hi, hdefault⟩ := List.any_eq_true.1 hinputs
  obtain ⟨v, hv, hnull⟩ := (Option.any_eq_true _ _).1 hdefault
  exact ⟨d, hd, i, hi, hv.trans (congrArg some (eq_of_beq hnull))⟩

/-- The text is one of a workflow as well. -/
theorem Definition.survives_scaleText :
    (∃ d, Definition.ofYaml? SharedDefinition.scaleText = some d ∧
      Definition.ofValue? d.toValue = some d) ∧
    ∃ d, SharedDefinition.ofYaml? SharedDefinition.scaleText = some d ∧
      SharedDefinition.ofValue? d.toValue = some d.forgetNulls ∧
        (d.forgetNulls = d ↔ ∀ i ∈ d.inputs, i.default ≠ some .null) := by
  have hworkflow : (Definition.ofYaml? SharedDefinition.scaleText).isSome = true := by
    decide +kernel
  obtain ⟨w, hw⟩ := Option.isSome_iff_exists.1 hworkflow
  obtain ⟨d, hd, -⟩ := SharedDefinition.ofYaml?_scaleText
  obtain ⟨m, hm⟩ := Definition.exists_node hw
  obtain ⟨n, hn⟩ := SharedDefinition.exists_node hd
  exact ⟨⟨w, hw, (Definition.survives m).1 w hm⟩, d, hd, (Definition.survives n).2 d hn⟩

/-- The default is gone. -/
theorem SharedDefinition.scaleText_changed :
    ∃ d, ofYaml? scaleText = some d ∧ ofValue? d.toValue ≠ some d := by
  obtain ⟨d, hd, i, hi, hnull⟩ := ofYaml?_scaleText
  obtain ⟨n, hn⟩ := exists_node hd
  refine ⟨d, hd, fun hsame => ?_⟩
  rw [ofValue?, ofValue_eq, ofNode?_toValue hn rfl, Option.some.injEq] at hsame
  exact d.forgetNulls_eq_self_iff.1 hsame i hi hnull

end Runbook
