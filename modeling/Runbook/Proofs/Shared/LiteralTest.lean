import Runbook.Proofs.Shared.Bound

/-!
# The test for placeholders

A value passes as literal exactly if it stands for itself whatever the variables are.  So what is
checked of a call before anything runs is what the call gets.

* `Template.length_fill_lt` says that a text with a placeholder becomes shorter when there are no
  variables;
* `interpolateValue_empty_iff` says that a value stays as it is without variables only if it has no
  placeholders, at any depth, and `resolveInput_empty` that it does not stand for itself otherwise;
* `Signature.BoundAsChecked` says of an input that a call gets what the check made of it;
* `LiteralTest` says what the test finds out, and `literalTest_exact` is the result.
-/

namespace Runbook

/-! ## Without variables -/

namespace Template

variable {cs : List Char}

theorem fill_placeholder (render : String → List Char) {path : String} {after : List Char}
    (h : placeholder? cs = some (path, after)) :
    fill render ('\x7b' :: cs) = render path ++ fill render after := by
  rw [fill, pieces_placeholder h]
  rfl

theorem fill_literal (render : String → List Char) {c : Char} (hc : c ≠ '\x7b')
    (cs : List Char) : fill render (c :: cs) = c :: fill render cs := by
  rw [fill, pieces_literal hc]
  rfl

theorem fill_open (render : String → List Char) (h : placeholder? cs = none) :
    fill render ('\x7b' :: cs) = '\x7b' :: fill render cs := by
  rw [fill, pieces_open h]
  rfl

/-- Placeholders that turn into nothing make no text longer. -/
theorem length_fill_le (cs : List Char) : (fill (fun _ => []) cs).length ≤ cs.length := by
  induction cs using pieces.induct with
  | case1 =>
    rw [fill, pieces]
    exact Nat.le_refl 0
  | case2 rest path after hfound ih =>
    have hshorter := length_lt_of_placeholder? hfound
    rw [fill_placeholder _ hfound, List.nil_append, List.length_cons]
    omega
  | case3 rest hnone ih =>
    rw [fill_open _ hnone]
    exact Nat.succ_le_succ ih
  | case4 c rest hc ih =>
    rw [fill_literal _ hc]
    exact Nat.succ_le_succ ih

/-- Placeholders that turn into nothing make a text shorter. -/
theorem length_fill_lt (h : hasPlaceholder cs = true) :
    (fill (fun _ => []) cs).length < cs.length := by
  induction cs using pieces.induct with
  | case1 =>
    rw [hasPlaceholder, pieces] at h
    cases h
  | case2 rest path after hfound ih =>
    have hshorter := length_lt_of_placeholder? hfound
    have hafter := length_fill_le after
    rw [fill_placeholder _ hfound, List.nil_append, List.length_cons]
    omega
  | case3 rest hnone ih =>
    rw [hasPlaceholder, pieces_open hnone] at h
    rw [fill_open _ hnone]
    exact Nat.succ_lt_succ (ih h)
  | case4 c rest hc ih =>
    rw [hasPlaceholder_literal hc] at h
    rw [fill_literal _ hc]
    exact Nat.succ_lt_succ (ih h)

end Template

theorem resolve_empty (path : String) : Variables.resolve .empty path = none := by
  rw [Variables.resolve]
  cases Template.segments path.toList <;> rfl

theorem rendered_empty (path : String) : Variables.rendered .empty path = [] := by
  rw [Variables.rendered, Variables.render, resolve_empty]
  rfl

/-- Without variables a text with a placeholder does not stay as it is. -/
theorem interpolate_empty_ne {s : String} (h : Template.hasPlaceholder s.toList = true) :
    Variables.interpolate .empty s ≠ s := by
  intro heq
  have hshorter := Template.length_fill_lt h
  rw [Variables.interpolate, funext rendered_empty] at heq
  have hsame : Template.fill (fun _ => []) s.toList = s.toList := by
    rw [← String.toList_ofList (l := Template.fill _ _), heq]
  rw [hsame] at hshorter
  exact Nat.lt_irrefl _ hshorter

mutual

/-- Without variables a value stays as it is exactly if it has no placeholders. -/
theorem interpolateValue_empty_iff (v : Value) :
    Variables.interpolateValue .empty v = v ↔ hasPlaceholders v = false := by
  cases v with
  | null | bool _ | number _ => exact iff_of_true rfl rfl
  | string s =>
    constructor
    · intro h
      refine Bool.eq_false_iff.2 fun htrue => ?_
      exact interpolate_empty_ne htrue (Value.string.inj h)
    · exact interpolateValue_literal _ _
  | array items =>
    rw [Variables.interpolateValue, hasPlaceholders, ← interpolateItems_empty_iff items]
    exact ⟨Value.array.inj, congrArg Value.array⟩
  | object fields =>
    rw [Variables.interpolateValue, hasPlaceholders, ← interpolateFields_empty_iff fields]
    exact ⟨Value.object.inj, congrArg Value.object⟩

theorem interpolateItems_empty_iff (items : List Value) :
    Variables.interpolateItems .empty items = items ↔ itemsHavePlaceholders items = false := by
  cases items with
  | nil => exact iff_of_true rfl rfl
  | cons v rest =>
    rw [Variables.interpolateItems, itemsHavePlaceholders, Bool.or_eq_false_iff,
      ← interpolateValue_empty_iff v, ← interpolateItems_empty_iff rest, List.cons.injEq]

theorem interpolateFields_empty_iff (fields : List (String × Value)) :
    Variables.interpolateFields .empty fields = fields ↔ fieldsHavePlaceholders fields = false := by
  cases fields with
  | nil => exact iff_of_true rfl rfl
  | cons field rest =>
    obtain ⟨name, v⟩ := field
    rw [Variables.interpolateFields, fieldsHavePlaceholders, Bool.or_eq_false_iff,
      ← interpolateValue_empty_iff v, ← interpolateFields_empty_iff rest, List.cons.injEq,
      Prod.mk.injEq, and_iff_right rfl]

end

/-- Without variables a text with a placeholder does not stand for itself, alone or not. -/
theorem resolveInput_empty {v : Value} (h : resolveInput .empty v = v) :
    hasPlaceholders v = false := by
  cases v with
  | null | bool _ | number _ => rfl
  | array _ | object _ => exact (interpolateValue_empty_iff _).1 h
  | string s =>
    cases hlone : lonePath? s with
    | none =>
      rw [resolveInput, hlone] at h
      exact (interpolateValue_empty_iff (.string s)).1 h
    | some path =>
      -- it would stand for the empty text, which has no placeholder
      simp only [resolveInput, hlone, resolve_empty, Option.getD_none] at h
      rw [← h, hasPlaceholders, Template.hasPlaceholder, String.toList_empty, Template.pieces]
      rfl

/-! ## Calls -/

namespace Signature

variable {sig : Signature} {call : SharedCall} {input : InputSpec} {name : String} {v : Value}

/-- What a call gets for an input is what the check before the run made of the value given. -/
structure BoundAsChecked (sig : Signature) (provided : KeyMap Value) (name : String) (v : Value) :
    Prop where
  /-- Each declaration of the input has accepted the value, and has the value accepted in every
  state of the variables. -/
  accepted : ∀ input ∈ sig.inputs, input.name = name →
    ∃ w, input.check sig.name v = .ok w ∧
      ∀ vars, sig.inputValue provided vars input = .ok (some w)
  /-- The input is bound to what its last declaration has accepted. -/
  declared : ∀ input, (sig.inputs.filter (·.name == name)).getLast? = some input →
    ∃ w, input.check sig.name v = .ok w ∧
      ∀ vars bound, sig.bindInputs provided vars = .ok bound → bound.find? name = some w
  /-- An input that is not declared is bound to the value given. -/
  undeclared : (∀ input ∈ sig.inputs, input.name ≠ name) →
    ∀ vars bound, sig.bindInputs provided vars = .ok bound → bound.find? name = some v

theorem check_of_checkInput (hcheck : sig.checkInput call input = .ok ())
    (hgiven : call.inputs.find? input.name = some v) (hv : hasPlaceholders v = false) :
    ∃ w, input.check sig.name v = .ok w := by
  rw [checkInput, hgiven] at hcheck
  simp only [hv, Bool.false_eq_true, if_false] at hcheck
  cases hw : input.check sig.name v with
  | ok w => exact ⟨w, rfl⟩
  | error failure =>
    rw [hw] at hcheck
    cases hcheck

/-- Every declaration of an input that is given applies to it. -/
theorem applicable_of_given {provided : KeyMap Value} (hgiven : provided.find? name = some v)
    (inputs : List InputSpec) : applicable inputs provided name = inputs.filter (·.name == name) := by
  have hcontains : provided.contains name = true := by
    rw [KeyMap.contains, hgiven]
    rfl
  rw [applicable]
  refine List.filter_congr fun input _ => ?_
  rw [hcontains, Bool.true_or, Bool.and_true]

/-- A checked call gets for a literal what the check made of it. -/
theorem boundAsChecked {step : String} (hcheck : sig.checkCall step call = .ok ())
    (hgiven : call.inputs.find? name = some v) (hv : hasPlaceholders v = false) :
    sig.BoundAsChecked call.inputs name v := by
  have haccepted : ∀ input ∈ sig.inputs, input.name = name →
      ∃ w, input.check sig.name v = .ok w ∧
        ∀ vars, sig.inputValue call.inputs vars input = .ok (some w) := by
    rintro input hmem rfl
    obtain ⟨w, hw⟩ := check_of_checkInput (checkInput_of_checkCall hcheck input hmem) hgiven hv
    refine ⟨w, hw, fun vars => ?_⟩
    rw [inputValue_of_given hgiven, resolveInput_literal vars hv, hw]
    rfl
  refine ⟨haccepted, fun input hlast => ?_, fun hapart vars bound hbound => ?_⟩
  · rw [← applicable_of_given hgiven] at hlast
    obtain ⟨hmem, hname, -⟩ := mem_of_applicable hlast
    obtain ⟨w, hw, hvalue⟩ := haccepted input hmem hname
    refine ⟨w, hw, fun vars bound hbound => ?_⟩
    obtain ⟨declared, hdeclared, rfl⟩ := bindInputs_eq_ok hbound
    obtain ⟨u, hu, hfind⟩ := find?_bound_of_applicable hdeclared hlast
    rw [hvalue vars] at hu
    cases hu
    exact hfind
  · obtain ⟨declared, hdeclared, rfl⟩ := bindInputs_eq_ok hbound
    rw [find?_bound_of_undeclared hdeclared hapart, hgiven]
    exact congrArg some (resolveInput_literal vars hv)

end Signature

/-! ## The result -/

/-- What the test for placeholders finds out about a value. -/
structure LiteralTest (v : Value) : Prop where
  /-- A value without placeholders is one that stays as it is in every state of the variables. -/
  filled : hasPlaceholders v = false ↔ ∀ vars : Variables, vars.interpolateValue v = v
  /-- It is also one that stands for itself as an input in every state of the variables. -/
  resolved : hasPlaceholders v = false ↔ ∀ vars : Variables, resolveInput vars v = v
  /-- A call that passed its check gets what the check made of the value, if it has none. -/
  bound : hasPlaceholders v = false → ∀ (sig : Signature) (step : String) (call : SharedCall)
    (name : String), sig.checkCall step call = .ok () → call.inputs.find? name = some v →
      sig.BoundAsChecked call.inputs name v

/-- **The test for placeholders is exact**: a value has none exactly if it stays as it is in every
state of the variables, in which case it also stands for itself as an input of a call, and what the
check of the call made of it is what the call gets. -/
theorem literalTest_exact (v : Value) : LiteralTest v where
  filled := ⟨fun h vars => interpolateValue_literal vars v h,
    fun h => (interpolateValue_empty_iff v).1 (h .empty)⟩
  resolved := ⟨fun h vars => resolveInput_literal vars h, fun h => resolveInput_empty (h .empty)⟩
  bound h _ _ _ _ hcheck hgiven := Signature.boundAsChecked hcheck hgiven h

/-- The check may make another value of a text, which is then what the call gets. -/
example : Signature.repeating.inputs.map (·.check "repeating" (.string "7")) = [.ok (.int 7)] := by
  rfl

end Runbook
