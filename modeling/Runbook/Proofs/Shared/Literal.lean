import Runbook.Proofs.KeyMap
import Runbook.Proofs.Template.Pieces
import Runbook.Proofs.Text.Trim
import Runbook.Shared.Call

/-!
# Calls with literal inputs

A call without placeholders is checked before anything runs, and gets the same inputs whatever the
variables are.  What that check leaves out are the defaults: one that its own schema refuses is
found only when the call is made, and then always.

* `resolveInput_literal` says that a value without placeholders stands for itself;
* `Signature.RefusesDefault` says that a call uses a default that its schema refuses;
* `Signature.inputValue_checked` is what the check of one input comes to, and
  `Signature.bindInputs_literal` what the check of the call does.
-/

namespace Runbook

/-! ## Values without placeholders -/

section Literal

variable (vars : Variables)

theorem interpolate_literal {s : String} (h : Template.hasPlaceholder s.toList = false) :
    vars.interpolate s = s := by
  rw [Variables.interpolate, Template.fill_of_no_placeholder _ h]
  exact String.ofList_toList

mutual

/-- A value without placeholders stays as it is. -/
theorem interpolateValue_literal (v : Value) (h : hasPlaceholders v = false) :
    vars.interpolateValue v = v := by
  cases v with
  | null | bool _ | number _ => rfl
  | string s => exact congrArg Value.string (interpolate_literal vars h)
  | array items => exact congrArg Value.array (interpolateItems_literal items h)
  | object fields => exact congrArg Value.object (interpolateFields_literal fields h)

theorem interpolateItems_literal (items : List Value) (h : itemsHavePlaceholders items = false) :
    vars.interpolateItems items = items := by
  cases items with
  | nil => rfl
  | cons v rest =>
    obtain ⟨hv, hrest⟩ := Bool.or_eq_false_iff.1 h
    rw [Variables.interpolateItems, interpolateValue_literal v hv,
      interpolateItems_literal rest hrest]

theorem interpolateFields_literal (fields : List (String × Value))
    (h : fieldsHavePlaceholders fields = false) : vars.interpolateFields fields = fields := by
  cases fields with
  | nil => rfl
  | cons field rest =>
    obtain ⟨name, v⟩ := field
    obtain ⟨hv, hrest⟩ := Bool.or_eq_false_iff.1 h
    rw [Variables.interpolateFields, interpolateValue_literal v hv,
      interpolateFields_literal rest hrest]

end

/-- What is one placeholder, blanks apart, has a placeholder. -/
theorem lonePath?_literal {s : String} (h : Template.hasPlaceholder s.toList = false) :
    lonePath? s = none := by
  have htrim : Template.hasPlaceholder (trim s.toList) = false := by
    refine Bool.eq_false_iff.2 fun htrue => ?_
    rw [Template.hasPlaceholder_of_part (trim_part _) htrue] at h
    cases h
  rw [lonePath?, Template.pieces_of_no_placeholder htrim]
  cases trim s.toList <;> rfl

/-- A value without placeholders stands for itself. -/
theorem resolveInput_literal {raw : Value} (h : hasPlaceholders raw = false) :
    resolveInput vars raw = raw := by
  cases raw with
  | string s =>
    rw [resolveInput, lonePath?_literal h]
    exact congrArg Value.string (interpolate_literal vars h)
  | null | bool _ | number _ | array _ | object _ => exact interpolateValue_literal vars _ h

end Literal

/-! ## What the check of a call leaves to the call -/

namespace Signature

variable {sig : Signature} {call : SharedCall} {input : InputSpec}

/-- The values that are given have no placeholders. -/
def Literal (provided : KeyMap Value) : Prop :=
  ∀ v ∈ provided.values, hasPlaceholders v = false

/-- An input that is not given has a default, which its schema refuses for a reason. -/
def RefusesDefault (provided : KeyMap Value) (input : InputSpec) (reason : String) : Prop :=
  provided.find? input.name = none ∧ ∃ default schema, input.default = some default ∧
    input.schema = some schema ∧ schema.check default = .error reason

/-- What a declared input is worth in every state of the variables, as far as the values given and
the defaults say. -/
inductive Settled (sig : Signature) (provided : KeyMap Value) (input : InputSpec) : Prop where
  /-- The input has a value, or does without. -/
  | worth (value : Option Value) (accepted : ∀ reason, ¬ RefusesDefault provided input reason)
    (valued : ∀ vars, sig.inputValue provided vars input = .ok value)
  /-- The default is refused. -/
  | refused (reason : String) (refuses : RefusesDefault provided input reason)
    (failed : ∀ vars, sig.inputValue provided vars input =
      .error (.schemaMismatch sig.name input.name reason))

theorem check_error {shared : String} {v : Value} {failure : Failure}
    (h : input.check shared v = .error failure) :
    ∃ schema reason, input.schema = some schema ∧ schema.check v = .error reason ∧
      failure = .schemaMismatch shared input.name reason := by
  unfold InputSpec.check at h
  split at h
  · cases h
  · next schema hschema =>
    cases hv : schema.check v with
    | ok w =>
      rw [hv] at h
      cases h
    | error reason =>
      rw [hv] at h
      cases h
      exact ⟨schema, reason, hschema, hv, rfl⟩

/-- An input that passes the check and has no placeholders can only fail by its default. -/
theorem inputValue_checked (hcheck : sig.checkInput call input = .ok ())
    (hliteral : Literal call.inputs) : Settled sig call.inputs input := by
  unfold checkInput at hcheck
  cases hgiven : call.inputs.find? input.name with
  | some raw =>
    have hraw : hasPlaceholders raw = false :=
      hliteral raw (List.mem_map_of_mem (Entries.mem_of_find?_eq_some hgiven))
    rw [hgiven] at hcheck
    simp only [hraw, Bool.false_eq_true, if_false] at hcheck
    cases hv : input.check sig.name raw with
    | error failure =>
      rw [hv] at hcheck
      cases hcheck
    | ok v =>
      refine .worth (some v) (fun reason h => ?_) fun vars => ?_
      · cases hgiven.symm.trans h.1
      · simp only [inputValue, hgiven, resolveInput_literal vars hraw, hv]
        rfl
  | none =>
    rw [hgiven] at hcheck
    cases hdefault : input.default with
    | none =>
      have hrequired : input.required = false := by
        cases hr : input.required with
        | false => rfl
        | true =>
          simp [hr, hdefault] at hcheck
      refine .worth none (fun reason h => ?_) fun vars => ?_
      · obtain ⟨-, default, -, hsome, -⟩ := h
        rw [hdefault] at hsome
        cases hsome
      · simp [inputValue, hgiven, hdefault, hrequired]
    | some default =>
      cases hv : input.check sig.name default with
      | ok v =>
        refine .worth (some v) (fun reason h => ?_) fun vars => ?_
        · obtain ⟨-, default', schema, hsome, hschema, herror⟩ := h
          rw [hdefault] at hsome
          cases hsome
          simp only [InputSpec.check, hschema, herror] at hv
          cases hv
        · simp only [inputValue, hgiven, hdefault, hv]
          rfl
      | error failure =>
        obtain ⟨schema, reason, hschema, herror, rfl⟩ := check_error hv
        refine .refused reason ⟨hgiven, default, schema, hdefault, hschema, herror⟩ fun vars => ?_
        simp only [inputValue, hgiven, hdefault, hv]
        rfl

/-- Declared inputs are bound alike in every state of the variables, up to the first whose default
is refused. -/
theorem bindDeclared_settled {provided : KeyMap Value} {inputs : List InputSpec}
    (h : ∀ input ∈ inputs, Settled sig provided input) (start : KeyMap Value) :
    (∀ input ∈ inputs, ∀ reason, ¬ RefusesDefault provided input reason) ∧
        (∃ bound, ∀ vars, sig.bindDeclared provided vars start inputs = .ok bound) ∨
      ∃ input ∈ inputs, ∃ reason, RefusesDefault provided input reason ∧
        ∀ vars, sig.bindDeclared provided vars start inputs =
          .error (.schemaMismatch sig.name input.name reason) := by
  induction inputs generalizing start with
  | nil => exact .inl ⟨fun _ hin => absurd hin List.not_mem_nil, start, fun _ => rfl⟩
  | cons input rest ih =>
    have hrest : ∀ other ∈ rest, Settled sig provided other :=
      fun other hin => h other (List.mem_cons_of_mem _ hin)
    cases h input List.mem_cons_self with
    | refused reason refuses failed =>
      refine .inr ⟨input, List.mem_cons_self, reason, refuses, fun vars => ?_⟩
      rw [bindDeclared, failed vars]
      rfl
    | worth value accepted valued =>
      have hstep : ∀ vars, sig.bindDeclared provided vars start (input :: rest) =
          sig.bindDeclared provided vars
            ((value.map (start.insert input.name)).getD start) rest := by
        intro vars
        rw [bindDeclared, valued vars]
        cases value <;> rfl
      rcases ih hrest ((value.map (start.insert input.name)).getD start) with
        ⟨haccepted, bound, hbound⟩ | ⟨other, hin, reason, refuses, failed⟩
      · refine .inl ⟨fun other hin => ?_, bound, fun vars => (hstep vars).trans (hbound vars)⟩
        rcases List.mem_cons.1 hin with rfl | hin
        · exact accepted
        · exact haccepted other hin
      · exact .inr ⟨other, List.mem_cons_of_mem _ hin, reason, refuses,
          fun vars => (hstep vars).trans (failed vars)⟩

theorem checkInput_of_checkCall {step : String} (h : sig.checkCall step call = .ok ()) :
    ∀ input ∈ sig.inputs, sig.checkInput call input = .ok () := by
  unfold checkCall at h
  generalize sig.inputs = inputs at h ⊢
  induction inputs with
  | nil => exact fun _ hin => absurd hin List.not_mem_nil
  | cons input rest ih =>
    cases hfirst : sig.checkInput call input with
    | error failure =>
      rw [List.forM_eq_forM, List.forM_cons, hfirst] at h
      cases h
    | ok =>
      rw [List.forM_eq_forM, List.forM_cons, hfirst] at h
      intro other hin
      rcases List.mem_cons.1 hin with rfl | hin
      · exact hfirst
      · exact ih h other hin

/-- The inputs that are not declared are bound alike in every state of the variables. -/
theorem resolve_undeclared {provided : KeyMap Value} (h : Literal provided) (vars : Variables) :
    (sig.undeclared provided).map (fun (name, raw) => (name, resolveInput vars raw)) =
      sig.undeclared provided := by
  refine (List.map_congr_left fun e he => ?_).trans (List.map_id _)
  have hraw : hasPlaceholders e.2 = false := h e.2 (List.mem_map_of_mem (List.mem_filter.1 he).1)
  exact congrArg (Prod.mk e.1) (resolveInput_literal vars hraw)

/-- **Literal calls are settled before they are made**: a call that passes the check and has no
placeholders gets the same inputs in every state of the variables, or it uses a default that its
schema refuses and fails with that in every state. -/
theorem bindInputs_literal {step : String} (hcheck : sig.checkCall step call = .ok ())
    (hliteral : Literal call.inputs) :
    (∀ input ∈ sig.inputs, ∀ reason, ¬ RefusesDefault call.inputs input reason) ∧
        (∃ bound, ∀ vars, sig.bindInputs call.inputs vars = .ok bound) ∨
      ∃ input ∈ sig.inputs, ∃ reason, RefusesDefault call.inputs input reason ∧
        ∀ vars, sig.bindInputs call.inputs vars =
          .error (.schemaMismatch sig.name input.name reason) := by
  have hsettled : ∀ input ∈ sig.inputs, Settled sig call.inputs input := fun input hin =>
    inputValue_checked (checkInput_of_checkCall hcheck input hin) hliteral
  rcases bindDeclared_settled hsettled .empty with
    ⟨haccepted, bound, hbound⟩ | ⟨input, hin, reason, refuses, failed⟩
  · refine .inl ⟨haccepted, bound.insertAll (sig.undeclared call.inputs), fun vars => ?_⟩
    rw [bindInputs, hbound vars, resolve_undeclared hliteral vars]
    rfl
  · refine .inr ⟨input, hin, reason, refuses, fun vars => ?_⟩
    rw [bindInputs, failed vars]
    rfl

/-- A shared step that repeats something a whole number of times, by default `many`. -/
def repeating : Signature :=
  ⟨"repeating", [⟨"times", false, some (.string "many"), some { type := some .integer }⟩], .empty⟩

/-- A call that says how many times. -/
def thrice : SharedCall := ⟨"repeating", .ofList [("times", .int 3)], .empty⟩

/-- A call that does not. -/
def unsaid : SharedCall := ⟨"repeating", .empty, .empty⟩

theorem bindInputs_literal_thrice :
    repeating.checkCall "again" thrice = .ok () ∧ Literal thrice.inputs ∧
      ∃ bound, ∀ vars, repeating.bindInputs thrice.inputs vars = .ok bound := by
  have hcheck : repeating.checkCall "again" thrice = .ok () := by rfl
  have hliteral : Literal thrice.inputs := by unfold Literal; decide
  refine ⟨hcheck, hliteral, ?_⟩
  rcases bindInputs_literal hcheck hliteral with ⟨-, hbound⟩ | ⟨input, hin, reason, hrefuses, -⟩
  · exact hbound
  · obtain rfl := List.mem_singleton.1 hin
    cases hrefuses.1

/-- A call may pass the check and yet fail, by a default. -/
theorem unsaid_unbound :
    repeating.checkCall "again" unsaid = .ok () ∧ Literal unsaid.inputs ∧
      ∀ vars, ¬ ∃ bound, repeating.bindInputs unsaid.inputs vars = .ok bound := by
  refine ⟨by rfl, by unfold Literal; decide, ?_⟩
  rintro vars ⟨bound, hbound⟩
  cases hbound

end Signature

end Runbook
