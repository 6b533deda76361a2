import Runbook.Proofs.Shared.Literal
import Runbook.Proofs.Template.Layout

/-!
# The inputs of a call

A call that was checked is never short of an input.  What its inputs are bound to comes from three
places: what is given, the defaults of what is declared, and the variables that a given text stands
for.

* `Resolves` says what a given value stands for in a state of the variables;
* `Signature.applicable` are the declarations of a name that have a value for it;
* `Signature.bindDeclared_find?` follows the declarations in order, the last one staying;
* `Signature.Binds` says which inputs are bound, and to what, and `Signature.bindInputs_binds` that
  the inputs of a checked call are.
-/

namespace Runbook

/-! ## Values that are given -/

/-- What a given value stands for: one placeholder for the value itself, and any other text for
what it is filled to, in a value as by itself. -/
inductive Resolves (vars : Variables) : Value → Value → Prop where
  /-- One placeholder with blanks around it; an empty text if there is no such value. -/
  | lone {s path : String} (hpath : Template.PathText path.toList)
    (htext : trim s.toList = Template.written path) :
    Resolves vars (.string s) ((vars.resolve path).getD (.string ""))
  /-- Any other text. -/
  | filled {s : String}
    (hother : ∀ path, Template.PathText path.toList → trim s.toList ≠ Template.written path) :
    Resolves vars (.string s) (.string (vars.interpolate s))
  /-- A value that is not a text. -/
  | nested {raw : Value} (hraw : ∀ s, raw ≠ .string s) :
    Resolves vars raw (vars.interpolateValue raw)

/-- A text is one placeholder, blanks apart, exactly if it is written like one. -/
theorem lonePath?_eq_some_iff {s path : String} :
    lonePath? s = some path ↔
      Template.PathText path.toList ∧ trim s.toList = Template.written path := by
  constructor
  · intro h
    have hpieces : Template.pieces (trim s.toList) = [.path path] := by
      rw [lonePath?] at h
      unfold Template.onlyPath? at h
      split at h
      · next heq =>
        cases h
        exact heq
      · cases h
    have hmem : Piece.path path ∈ Template.pieces (trim s.toList) := by
      rw [hpieces]
      exact List.mem_cons_self
    refine ⟨Template.isPath_iff.1 (Template.isPath_of_mem_pieces hmem), ?_⟩
    rw [← Template.fill_written (trim s.toList), Template.fill, hpieces]
    exact List.append_nil _
  · rintro ⟨hpath, htext⟩
    have hpieces : Template.pieces (Template.written path) = [.path path] := by
      have hbraced := Template.pieces_braced (Template.isPath_iff.2 hpath)
      rw [String.ofList_toList] at hbraced
      exact hbraced
    rw [lonePath?, htext, hpieces]
    rfl

/-- A value that is given stands for one value only. -/
theorem resolves_iff {vars : Variables} {raw v : Value} :
    Resolves vars raw v ↔ v = resolveInput vars raw := by
  constructor
  · intro h
    cases h with
    | lone hpath htext => rw [resolveInput, lonePath?_eq_some_iff.2 ⟨hpath, htext⟩]
    | @filled s hother =>
      have hnone : lonePath? s = none := by
        cases hlone : lonePath? s with
        | none => rfl
        | some path =>
          obtain ⟨hpath, htext⟩ := lonePath?_eq_some_iff.1 hlone
          exact absurd htext (hother path hpath)
      rw [resolveInput, hnone]
    | nested hraw =>
      cases raw with
      | string s => exact absurd rfl (hraw s)
      | null | bool _ | number _ | array _ | object _ => rfl
  · rintro rfl
    cases raw with
    | string s =>
      rw [resolveInput]
      cases hlone : lonePath? s with
      | some path =>
        obtain ⟨hpath, htext⟩ := lonePath?_eq_some_iff.1 hlone
        exact .lone hpath htext
      | none =>
        refine .filled fun path hpath htext => ?_
        rw [lonePath?_eq_some_iff.2 ⟨hpath, htext⟩] at hlone
        cases hlone
    | null | bool _ | number _ | array _ | object _ => exact .nested fun s heq => by cases heq

/-! ## Values that are bound -/

namespace Signature

variable {sig : Signature} {provided : KeyMap Value} {vars : Variables} {input : InputSpec}

/-- The declarations of a name that have a value for it: all of them if it is given, else those
with a default. -/
def applicable (inputs : List InputSpec) (provided : KeyMap Value) (name : String) :
    List InputSpec :=
  inputs.filter fun input => input.name == name && (provided.contains name || input.default.isSome)

/-- What the inputs of a call are bound to. -/
structure Binds (sig : Signature) (provided : KeyMap Value) (vars : Variables)
    (bound : KeyMap Value) : Prop where
  /-- Bound is what is given and what has a default. -/
  names : ∀ name, bound.contains name = true ↔ provided.contains name = true ∨
    ∃ input ∈ sig.inputs, input.name = name ∧ input.default.isSome = true
  /-- A declared input that is given has the value that its last declaration makes of what it
  stands for. -/
  given : ∀ name raw input, provided.find? name = some raw →
    (applicable sig.inputs provided name).getLast? = some input →
      ∃ resolved v, Resolves vars raw resolved ∧ input.check sig.name resolved = .ok v ∧
        bound.find? name = some v
  /-- One that is not given has the value that its last declaration with a default makes of that. -/
  omitted : ∀ name input, provided.find? name = none →
    (applicable sig.inputs provided name).getLast? = some input →
      ∃ default v, input.default = some default ∧ input.check sig.name default = .ok v ∧
        bound.find? name = some v
  /-- One that is given but not declared has the value that it stands for. -/
  undeclared : ∀ name raw, provided.find? name = some raw →
    (∀ input ∈ sig.inputs, input.name ≠ name) →
      ∃ resolved, Resolves vars raw resolved ∧ bound.find? name = some resolved

theorem eq_ok_of_map_some {x : Except Failure Value} {value : Option Value}
    (h : x.map some = .ok value) : ∃ v, x = .ok v ∧ value = some v := by
  cases x with
  | error failure => cases h
  | ok v =>
    cases h
    exact ⟨v, rfl, rfl⟩

theorem inputValue_of_given {raw : Value} (h : provided.find? input.name = some raw) :
    sig.inputValue provided vars input =
      (input.check sig.name (resolveInput vars raw)).map some := by
  rw [inputValue, h]

theorem inputValue_of_default {default : Value} (h : provided.find? input.name = none)
    (hdefault : input.default = some default) :
    sig.inputValue provided vars input = (input.check sig.name default).map some := by
  rw [inputValue, h, hdefault]

/-- A declaration checks what is given or else its default.  With neither it has no value, which
fails if one is required. -/
theorem inputValue_cases (sig : Signature) (provided : KeyMap Value) (vars : Variables)
    (input : InputSpec) :
    ((provided.contains input.name || input.default.isSome) = true ∧
        ∃ v, sig.inputValue provided vars input = (input.check sig.name v).map some) ∨
      (provided.find? input.name = none ∧ input.default = none ∧
        sig.inputValue provided vars input =
          if input.required then .error (.missingInput sig.name input.name) else .ok none) := by
  rw [KeyMap.contains]
  cases hgiven : provided.find? input.name with
  | some raw => exact .inl ⟨rfl, _, inputValue_of_given hgiven⟩
  | none =>
    cases hdefault : input.default with
    | some default => exact .inl ⟨rfl, _, inputValue_of_default hgiven hdefault⟩
    | none => exact .inr ⟨rfl, rfl, by rw [inputValue, hgiven, hdefault]⟩

/-- A declaration has a value for its input if one is given or there is a default. -/
theorem isSome_of_inputValue {value : Option Value}
    (h : sig.inputValue provided vars input = .ok value) :
    value.isSome = (provided.contains input.name || input.default.isSome) := by
  rcases inputValue_cases sig provided vars input with
    ⟨happlies, v, hvalue⟩ | ⟨hgiven, hdefault, hvalue⟩
  · rw [hvalue] at h
    obtain ⟨w, -, rfl⟩ := eq_ok_of_map_some h
    exact happlies.symm
  · rw [hvalue] at h
    rw [KeyMap.contains, hgiven, hdefault]
    split at h
    · cases h
    · cases h
      rfl

theorem bindDeclared_of_value {start : KeyMap Value} {rest : List InputSpec} {value : Option Value}
    (h : sig.inputValue provided vars input = .ok value) :
    sig.bindDeclared provided vars start (input :: rest) =
      sig.bindDeclared provided vars ((value.map (start.insert input.name)).getD start) rest := by
  rw [bindDeclared, h]
  cases value <;> rfl

/-- A name is bound to the value of its last applicable declaration. -/
theorem bindDeclared_find? {start bound : KeyMap Value} {inputs : List InputSpec}
    (h : sig.bindDeclared provided vars start inputs = .ok bound) (name : String) :
    applicable inputs provided name = [] ∧ bound.find? name = start.find? name ∨
      ∃ input v, (applicable inputs provided name).getLast? = some input ∧
        sig.inputValue provided vars input = .ok (some v) ∧ bound.find? name = some v := by
  induction inputs generalizing start with
  | nil =>
    cases h
    exact .inl ⟨rfl, rfl⟩
  | cons input rest ih =>
    cases hvalue : sig.inputValue provided vars input with
    | error failure =>
      rw [bindDeclared, hvalue] at h
      cases h
    | ok value =>
      have hsome := isSome_of_inputValue hvalue
      rw [bindDeclared_of_value hvalue] at h
      rw [applicable, List.filter_cons, ← applicable]
      rcases ih h with ⟨hnone, hfind⟩ | ⟨last, v, hlast, hv, hfind⟩
      · -- no later declaration changes what this one does
        rw [hnone, hfind]
        by_cases hname : input.name = name
        · subst hname
          cases value with
          | none =>
            refine .inl ⟨if_neg ?_, rfl⟩
            simp [← hsome]
          | some v =>
            refine .inr ⟨input, v, ?_, hvalue, start.find?_insert_self _ _⟩
            rw [if_pos (by simp [← hsome])]
            rfl
        · refine .inl ⟨if_neg (by simp [hname]), ?_⟩
          cases value with
          | none => rfl
          | some v => exact start.find?_insert_of_ne v (Ne.symm hname)
      · refine .inr ⟨last, v, ?_, hv, hfind⟩
        split
        · rw [List.getLast?_cons, hlast]
          rfl
        · exact hlast

/-- The declared inputs cannot be bound only if one of them has no value. -/
theorem bindDeclared_error {start : KeyMap Value} {inputs : List InputSpec} {failure : Failure}
    (h : sig.bindDeclared provided vars start inputs = .error failure) :
    ∃ input ∈ inputs, sig.inputValue provided vars input = .error failure := by
  induction inputs generalizing start with
  | nil => cases h
  | cons input rest ih =>
    cases hvalue : sig.inputValue provided vars input with
    | error other =>
      rw [bindDeclared, hvalue] at h
      cases h
      exact ⟨input, List.mem_cons_self, hvalue⟩
    | ok value =>
      rw [bindDeclared_of_value hvalue] at h
      obtain ⟨other, hmem, hother⟩ := ih h
      exact ⟨other, List.mem_cons_of_mem _ hmem, hother⟩

/-- An input that was checked has a value or can do without. -/
theorem inputValue_ne_missing {call : SharedCall} (hcheck : sig.checkInput call input = .ok ())
    (shared name : String) :
    sig.inputValue call.inputs vars input ≠ .error (.missingInput shared name) := by
  intro hmissing
  rcases inputValue_cases sig call.inputs vars input with
    ⟨-, v, hvalue⟩ | ⟨hgiven, hdefault, hvalue⟩
  · -- the failure of a check is another one
    rw [hvalue] at hmissing
    cases hchecked : input.check sig.name v with
    | ok w =>
      rw [hchecked] at hmissing
      cases hmissing
    | error failure =>
      obtain ⟨_, reason, -, -, hfailure⟩ := check_error hchecked
      rw [hchecked, hfailure] at hmissing
      cases hmissing
  · rw [checkInput, hgiven, hdefault] at hcheck
    rw [hvalue] at hmissing
    cases hrequired : input.required <;> rw [hrequired] at hcheck hmissing
    · cases hmissing
    · cases hcheck

/-- The bound inputs: those declared, and on top of them those that are given but not declared. -/
def withUndeclared (sig : Signature) (provided : KeyMap Value) (vars : Variables)
    (declared : KeyMap Value) : KeyMap Value :=
  declared.insertAll (Entries.mapValues (resolveInput vars) (sig.undeclared provided))

theorem find?_withUndeclared (declared : KeyMap Value) (name : String) :
    (sig.withUndeclared provided vars declared).find? name =
      if sig.inputs.any (·.name == name) then declared.find? name
      else ((provided.find? name).map (resolveInput vars)).or (declared.find? name) := by
  have hkept : sig.undeclared provided =
      provided.entries.filter fun e => !sig.inputs.any (·.name == e.1) := rfl
  have hnodup : ((Entries.mapValues (resolveInput vars) (sig.undeclared provided)).map
      Prod.fst).Nodup := by
    rw [Entries.mapValues, List.map_map]
    exact Entries.nodup_filter provided.nodup_keys _
  rw [withUndeclared, KeyMap.find?_insertAll hnodup, Entries.find?_mapValues, hkept]
  split
  case isTrue hdeclared =>
    rw [Entries.find?_of_notMem]
    · rfl
    · intro hmem
      obtain ⟨e, he, rfl⟩ := List.mem_map.1 hmem
      have hapart := (List.mem_filter.1 he).2
      rw [hdeclared] at hapart
      cases hapart
  case isFalse hapart =>
    rw [Entries.find?_filter (fun name => !sig.inputs.any (·.name == name))]
    · rfl
    · rw [Bool.not_eq_true] at hapart
      rw [hapart]
      rfl

theorem bindInputs_eq_ok {bound : KeyMap Value} (h : sig.bindInputs provided vars = .ok bound) :
    ∃ declared, sig.bindDeclared provided vars .empty sig.inputs = .ok declared ∧
      bound = sig.withUndeclared provided vars declared := by
  unfold bindInputs at h
  cases hdeclared : sig.bindDeclared provided vars .empty sig.inputs with
  | error failure =>
    rw [hdeclared] at h
    cases h
  | ok declared =>
    rw [hdeclared] at h
    cases h
    exact ⟨declared, rfl, rfl⟩

theorem mem_of_applicable {inputs : List InputSpec} {name : String}
    (h : (applicable inputs provided name).getLast? = some input) :
    input ∈ inputs ∧ input.name = name ∧
      (provided.contains name = true ∨ input.default.isSome = true) := by
  obtain ⟨hmem, happlies⟩ := List.mem_filter.1 (List.mem_of_getLast? h)
  rw [Bool.and_eq_true, beq_iff_eq, Bool.or_eq_true] at happlies
  exact ⟨hmem, happlies⟩

/-- A name without an applicable declaration is not given, and no declaration of it has a
default. -/
theorem not_applicable {inputs : List InputSpec} {name : String}
    (h : (applicable inputs provided name).getLast? = none) (hmem : input ∈ inputs)
    (hname : input.name = name) :
    ¬ (provided.contains name = true ∨ input.default.isSome = true) := by
  intro happlies
  rw [List.getLast?_eq_none_iff] at h
  have hmember : input ∈ applicable inputs provided name :=
    List.mem_filter.2 ⟨hmem, by
      rw [Bool.and_eq_true, beq_iff_eq, Bool.or_eq_true]
      exact ⟨hname, happlies⟩⟩
  rw [h] at hmember
  cases hmember

section Bound

variable {declared : KeyMap Value} {name : String}

/-- A declared input has the value of its last applicable declaration. -/
theorem find?_bound_of_applicable
    (h : sig.bindDeclared provided vars .empty sig.inputs = .ok declared)
    (hinput : (applicable sig.inputs provided name).getLast? = some input) :
    ∃ v, sig.inputValue provided vars input = .ok (some v) ∧
      (sig.withUndeclared provided vars declared).find? name = some v := by
  obtain ⟨hmem, hname, -⟩ := mem_of_applicable hinput
  have hany : sig.inputs.any (·.name == name) = true :=
    List.any_eq_true.2 ⟨input, hmem, beq_iff_eq.2 hname⟩
  rw [find?_withUndeclared, if_pos hany]
  rcases bindDeclared_find? h name with ⟨hnone, -⟩ | ⟨last, v, hlast, hv, hfind⟩
  · rw [hnone] at hinput
    cases hinput
  · rw [hinput] at hlast
    cases hlast
    exact ⟨v, hv, hfind⟩

/-- A declared input without an applicable declaration has no value. -/
theorem find?_bound_of_declared
    (h : sig.bindDeclared provided vars .empty sig.inputs = .ok declared)
    (hmem : input ∈ sig.inputs)
    (hnone : (applicable sig.inputs provided input.name).getLast? = none) :
    (sig.withUndeclared provided vars declared).find? input.name = none := by
  have hany : sig.inputs.any (·.name == input.name) = true :=
    List.any_eq_true.2 ⟨input, hmem, beq_self_eq_true _⟩
  rw [find?_withUndeclared, if_pos hany]
  rcases bindDeclared_find? h input.name with ⟨-, hfind⟩ | ⟨last, v, hlast, -, -⟩
  · exact hfind
  · rw [hnone] at hlast
    cases hlast

/-- What is not declared has the value that it was given. -/
theorem find?_bound_of_undeclared
    (h : sig.bindDeclared provided vars .empty sig.inputs = .ok declared)
    (hapart : ∀ input ∈ sig.inputs, input.name ≠ name) :
    (sig.withUndeclared provided vars declared).find? name =
      (provided.find? name).map (resolveInput vars) := by
  have hany : sig.inputs.any (·.name == name) = false :=
    List.any_eq_false.2 fun input hmem => by simpa using hapart input hmem
  rw [find?_withUndeclared, hany, if_neg Bool.false_ne_true]
  rcases bindDeclared_find? h name with ⟨-, hfind⟩ | ⟨last, -, hlast, -, -⟩
  · rw [hfind]
    exact Option.or_none
  · obtain ⟨hmem, hname, -⟩ := mem_of_applicable hlast
    exact absurd hname (hapart last hmem)

/-- Bound is what is given, and what is declared with a default. -/
theorem contains_bound (h : sig.bindDeclared provided vars .empty sig.inputs = .ok declared) :
    (sig.withUndeclared provided vars declared).contains name = true ↔
      provided.contains name = true ∨
        ∃ input ∈ sig.inputs, input.name = name ∧ input.default.isSome = true := by
  rw [KeyMap.contains]
  by_cases hapart : ∀ input ∈ sig.inputs, input.name ≠ name
  · rw [find?_bound_of_undeclared h hapart, Option.isSome_map]
    refine (or_iff_left ?_).symm
    rintro ⟨input, hmem, hname, -⟩
    exact hapart input hmem hname
  · obtain ⟨input, hmem, rfl⟩ : ∃ input ∈ sig.inputs, input.name = name := by simpa using hapart
    cases hlast : (applicable sig.inputs provided input.name).getLast? with
    | some last =>
      obtain ⟨v, -, hfind⟩ := find?_bound_of_applicable h hlast
      obtain ⟨hlastmem, hname, happlies⟩ := mem_of_applicable hlast
      rw [hfind]
      exact iff_of_true rfl (happlies.imp_right fun hdefault => ⟨last, hlastmem, hname, hdefault⟩)
    | none =>
      rw [find?_bound_of_declared h hmem hlast]
      refine iff_of_false Bool.false_ne_true ?_
      rintro (hgiven | ⟨other, hother, hname, hdefault⟩)
      · exact not_applicable hlast hmem rfl (.inl hgiven)
      · exact not_applicable hlast hother hname (.inr hdefault)

end Bound

/-- The inputs that a call gets are what is given, declared and left to a default. -/
theorem binds_of_bindInputs {bound : KeyMap Value} (h : sig.bindInputs provided vars = .ok bound) :
    sig.Binds provided vars bound := by
  obtain ⟨declared, hdeclared, rfl⟩ := bindInputs_eq_ok h
  refine ⟨fun name => contains_bound hdeclared, fun name raw input hgiven hinput => ?given,
    fun name input hgiven hinput => ?omitted, fun name raw hgiven hapart => ?undeclared⟩
  case given =>
    obtain ⟨v, hv, hfind⟩ := find?_bound_of_applicable hdeclared hinput
    obtain ⟨-, rfl, -⟩ := mem_of_applicable hinput
    rw [inputValue_of_given hgiven] at hv
    obtain ⟨w, hchecked, heq⟩ := eq_ok_of_map_some hv
    cases heq
    exact ⟨_, v, resolves_iff.2 rfl, hchecked, hfind⟩
  case omitted =>
    obtain ⟨v, hv, hfind⟩ := find?_bound_of_applicable hdeclared hinput
    obtain ⟨-, rfl, happlies⟩ := mem_of_applicable hinput
    rw [KeyMap.contains, hgiven] at happlies
    obtain ⟨default, hdefault⟩ :=
      Option.isSome_iff_exists.1 (happlies.resolve_left Bool.false_ne_true)
    rw [inputValue_of_default hgiven hdefault] at hv
    obtain ⟨w, hchecked, heq⟩ := eq_ok_of_map_some hv
    cases heq
    exact ⟨default, v, hdefault, hchecked, hfind⟩
  case undeclared =>
    refine ⟨_, resolves_iff.2 rfl, ?_⟩
    rw [find?_bound_of_undeclared hdeclared hapart, hgiven]
    rfl

/-- **Checked calls are not short of inputs**: a call that passed the check never misses one, in any
state of the variables, and the inputs that it gets are exactly those given, declared and left to a
default. -/
theorem bindInputs_binds {call : SharedCall} {step : String}
    (hcheck : sig.checkCall step call = .ok ()) (vars : Variables) :
    (∀ shared name, sig.bindInputs call.inputs vars ≠ .error (.missingInput shared name)) ∧
      ∀ bound, sig.bindInputs call.inputs vars = .ok bound → sig.Binds call.inputs vars bound := by
  refine ⟨fun shared name hmissing => ?_, fun bound hbound => binds_of_bindInputs hbound⟩
  unfold bindInputs at hmissing
  cases hdeclared : sig.bindDeclared call.inputs vars .empty sig.inputs with
  | ok declared =>
    rw [hdeclared] at hmissing
    cases hmissing
  | error failure =>
    obtain ⟨input, hmem, hvalue⟩ := bindDeclared_error hdeclared
    rw [hdeclared] at hmissing
    cases hmissing
    exact inputValue_ne_missing (checkInput_of_checkCall hcheck input hmem) shared name hvalue

/-- A shared step with an input that is declared twice and one that may be left out. -/
def scaling : Signature :=
  ⟨"scaling",
    [⟨"times", true, none, none⟩, ⟨"times", false, none, some { type := some .string }⟩,
      ⟨"mode", false, some (.string "7"), some { type := some .integer }⟩], .empty⟩

/-- A call that gives the first, and something else. -/
def scaled : SharedCall :=
  ⟨"scaling", .ofList [("note", .bool true), ("times", .string " \x7bn\x7d ")], .empty⟩

/-- The variable that the call names. -/
def counted : Variables := .ofList [("n", .int 3)]

theorem bindInputs_binds_scaled :
    scaling.checkCall "scale" scaled = .ok () ∧
      ∃ bound, scaling.bindInputs scaled.inputs counted = .ok bound ∧
        scaling.Binds scaled.inputs counted bound := by
  have hpath : Template.PathText "n".toList := Template.isPath_iff.1 (by decide)
  have hlone : lonePath? " \x7bn\x7d " = some "n" :=
    lonePath?_eq_some_iff.2 ⟨hpath, by decide⟩
  have hplaceholder : hasPlaceholders (.string " \x7bn\x7d ") = true :=
    Template.hasPlaceholder_iff.2 ⟨_, hpath, [' '], [' '], rfl⟩
  have hgiven : ∀ input : InputSpec, input.name = "times" →
      scaled.inputs.find? input.name = some (.string " \x7bn\x7d ") := by
    intro input hname
    rw [hname]
    rfl
  have hcheck : scaling.checkCall "scale" scaled = .ok () := by
    have htimes : ∀ input : InputSpec, input.name = "times" →
        scaling.checkInput scaled input = .ok () := by
      intro input hname
      rw [checkInput, hgiven input hname]
      exact if_pos hplaceholder
    have hinputs : scaling.inputs.forM (scaling.checkInput scaled) = .ok () := by
      unfold scaling
      rw [List.forM_eq_forM, List.forM_cons, List.forM_cons, List.forM_cons, List.forM_nil,
        ← scaling, htimes _ rfl, htimes _ rfl]
      rfl
    rw [checkCall, hinputs]
    rfl
  have hbound : scaling.bindInputs scaled.inputs counted = .ok (.ofList [("mode", .int 7),
      ("note", .bool true), ("times", .string "3")]) := by
    have htimes : ∀ input : InputSpec, input.name = "times" →
        scaling.inputValue scaled.inputs counted input =
          (input.check scaling.name (.int 3)).map some := by
      intro input hname
      rw [inputValue_of_given (hgiven input hname), resolveInput, hlone]
      rfl
    have hdeclared : scaling.bindDeclared scaled.inputs counted .empty scaling.inputs =
        .ok (.ofList [("mode", .int 7), ("times", .string "3")]) := by
      have hfirst : scaling.inputValue scaled.inputs counted ⟨"times", true, none, none⟩ =
          .ok (some (.int 3)) := htimes _ rfl
      have hsecond : scaling.inputValue scaled.inputs counted
          ⟨"times", false, none, some { type := some .string }⟩ = .ok (some (.string "3")) :=
        htimes _ rfl
      refine (bindDeclared_of_value hfirst).trans ((bindDeclared_of_value hsecond).trans ?_)
      rfl
    rw [bindInputs, hdeclared]
    rfl
  exact ⟨hcheck, _, hbound, (bindInputs_binds hcheck counted).2 _ hbound⟩

end Signature

end Runbook
