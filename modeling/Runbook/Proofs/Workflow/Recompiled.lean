import Runbook.Proofs.Workflow.Callee
import Runbook.Proofs.Workflow.Checked

/-!
# Steps compiled again

What compiling a list of steps comes to when it is known what compiling the calls in it comes to,
whatever was compiled before.

* `settles_compileSteps` says that valid steps come to the one block that follows them, or fail as a
  call in them does;
* `indifferent_compileSteps` says that steps end alike in all states if the calls in them do;
* `CalleeFollows.unique` and `CalleeFollows.at_height` say that a reference has one compiled shared
  step, which is found in as many rounds as it is high.
-/

namespace Runbook

open Portion

/-! ## Valid steps -/

section Valid

variable {c : Compiler} {call : CallCompiler} {I : CompileState → Prop} {C : CallRelation}
  {P : Failure → Prop} {origin : String} {height : Nat}

/-- A call of these comes to what may stand in its place, if that is not too high. -/
abbrev SettlesCalls (call : CallCompiler) (I : CompileState → Prop) (C : CallRelation)
    (P : Failure → Prop) (origin : String) (height : Nat) (calls : List (String × SharedCall)) :
    Prop :=
  ∀ p ∈ calls, ∀ action, C p.1 p.2 action → Block.actionHeight action ≤ height →
    Settles I (· = action) P (call p.1 p.2 origin)

theorem settles_check {r : Except Failure Unit} (h : r = .ok ()) :
    Settles I (fun _ => True) P (liftM r : Compile Unit) :=
  settles_lift (fun _ _ => trivial) fun _ he => by rw [h] at he; cases he

theorem settles_checkedBlock {scope : String} {steps : List StepDefinition} {m : Compile Block}
    {block : Block} (hv : NamesValid (stepNames steps)) (h : Settles I (· = block) P m) :
    Settles I (· = block) P (checkedBlock scope steps m) :=
  (settles_check (checkNames_eq_ok.2 ⟨hv, by simp⟩)).bind fun _ _ => h

mutual

theorem settles_compileTool :
    ∀ (tool : Tool) {scope step : String} {action : Action}, toolValid c.adapters tool →
      toolFollows C step tool action → Block.actionHeight action ≤ height →
        SettlesCalls call I C P origin height (toolCalls step tool) →
          Settles I (· = action) P (compileTool c call scope origin step tool)
  | .bash _ _, _, _, _, _, hf, _, _ | .agent _, _, _, _, _, hf, _, _
  | .prompt _, _, _, _, _, hf, _, _ | .set _ _ _, _, _, _, _, hf, _, _
  | .log _ _, _, _, _, _, hf, _, _ | .goto _, _, _, _, _, hf, _, _ | .leave, _, _, _, _, hf, _, _
  | .next, _, _, _, _, hf, _, _ | .adapter _ _, _, _, _, _, hf, _, _ => settles_pure hf.symm
  | .foreach _ steps, _, _, _, hv, hf, hm, h | .whilst _ steps, _, _, _, hv, hf, hm, h
  | .range _ steps, _, _, _, hv, hf, hm, h | .retry _ steps, _, _, _, hv, hf, hm, h => by
    obtain ⟨body, rfl, hbody⟩ := hf
    refine (settles_checkedBlock hv.1 (settles_compileSteps steps hv.2 hbody hm h)).map ?_
    rintro _ rfl
    rfl
  | .shared sharedCall, _, step, action, _, hf, hm, h =>
    h (step, sharedCall) List.mem_cons_self action hf hm

theorem settles_compileStep :
    ∀ (step : Step Tool) {scope : String} {inLoop : Bool} {names : List String}
      {compiled : Step Action}, stepValid c.adapters names inLoop step →
        stepFollows C step compiled → Block.stepHeight compiled ≤ height →
          SettlesCalls call I C P origin height (stepCalls step) →
            Settles I (· = compiled) P (compileStep c call scope origin inLoop names step)
  | ⟨_, _, _, _, _, _, _, tool⟩, _, _, _, _, hv, hf, hm, h => by
    obtain ⟨action, rfl, haction⟩ := hf
    refine (settles_check (Compiler.checkStep_eq_ok.2 hv.1)).bind fun _ _ => ?_
    refine (settles_compileTool tool hv.2 haction hm h).bind ?_
    rintro _ rfl
    exact settles_pure rfl

/-- Valid steps come to the block that follows them, unless a call in them fails. -/
theorem settles_compileSteps :
    ∀ (steps : List (Step Tool)) {scope : String} {inLoop : Bool} {names : List String}
      {block : Block}, stepsValid c.adapters names inLoop steps → stepsFollow C steps block →
        Block.sharedHeight block ≤ height →
          SettlesCalls call I C P origin height (stepsCalls steps) →
            Settles I (· = block) P (compileSteps c call scope origin inLoop names steps)
  | [], _, _, _, _, _, hf, _, _ => settles_pure hf.symm
  | step :: rest, _, _, _, _, hv, hf, hm, h => by
    obtain ⟨first, more, rfl, hfirst, hmore⟩ := hf
    have hm := Nat.max_le.1 hm
    refine (settles_compileStep step hv.1 hfirst hm.1 fun p hp =>
      h p (List.mem_append_left _ hp)).bind ?_
    rintro _ rfl
    refine (settles_compileSteps rest hv.2 hmore hm.2 fun p hp =>
      h p (List.mem_append_right _ hp)).bind ?_
    rintro _ rfl
    exact settles_pure rfl

end

theorem settles_compileBlock (scope : String) {steps : List StepDefinition} {block : Block}
    (hv : BlockValid c.adapters false steps) (hf : stepsFollow C steps block)
    (h : SettlesCalls call I C P origin (Block.sharedHeight block) (stepsCalls steps)) :
    Settles I (· = block) P (compileBlock c call scope origin steps) :=
  settles_checkedBlock hv.1 (settles_compileSteps steps hv.2 hf le_rfl h)

end Valid

/-! ## Any steps -/

section Any

variable {c : Compiler} {call : CallCompiler} {I : CompileState → Prop}
  {E : Failure → Failure → Prop} {origin : String}

theorem indifferent_checkedBlock (hE : ∀ e, E e e) {scope : String} {steps : List StepDefinition}
    {m : Compile Block} (h : Indifferent I E m) :
    Indifferent I E (checkedBlock scope steps m) :=
  (indifferent_lift hE _).bind fun _ => h

mutual

theorem indifferent_compileTool (hE : ∀ e, E e e) :
    ∀ (tool : Tool) {scope step : String},
      (∀ p ∈ toolCalls step tool, Indifferent I E (call p.1 p.2 origin)) →
        Indifferent I E (compileTool c call scope origin step tool)
  | .bash _ _, _, _, _ | .agent _, _, _, _ | .prompt _, _, _, _ | .set _ _ _, _, _, _
  | .log _ _, _, _, _ | .goto _, _, _, _ | .leave, _, _, _ | .next, _, _, _
  | .adapter _ _, _, _, _ => indifferent_pure _
  | .foreach _ steps, _, _, h | .whilst _ steps, _, _, h | .range _ steps, _, _, h
  | .retry _ steps, _, _, h =>
    (indifferent_checkedBlock hE (indifferent_compileSteps hE steps h)).map
  | .shared sharedCall, _, step, h => h (step, sharedCall) List.mem_cons_self

theorem indifferent_compileStep (hE : ∀ e, E e e) :
    ∀ (step : Step Tool) {scope : String} {inLoop : Bool} {names : List String},
      (∀ p ∈ stepCalls step, Indifferent I E (call p.1 p.2 origin)) →
        Indifferent I E (compileStep c call scope origin inLoop names step)
  | ⟨_, _, _, _, _, _, _, tool⟩, _, _, _, h =>
    (indifferent_lift hE _).bind fun _ =>
      (indifferent_compileTool hE tool h).bind fun _ => indifferent_pure _

/-- Steps end alike in all states if the calls in them do. -/
theorem indifferent_compileSteps (hE : ∀ e, E e e) :
    ∀ (steps : List (Step Tool)) {scope : String} {inLoop : Bool} {names : List String},
      (∀ p ∈ stepsCalls steps, Indifferent I E (call p.1 p.2 origin)) →
        Indifferent I E (compileSteps c call scope origin inLoop names steps)
  | [], _, _, _, _ => indifferent_pure _
  | step :: rest, _, _, _, h =>
    (indifferent_compileStep hE step fun p hp => h p (List.mem_append_left _ hp)).bind fun _ =>
      (indifferent_compileSteps hE rest fun p hp => h p (List.mem_append_right _ hp)).bind fun _ =>
        indifferent_pure _

end

theorem indifferent_compileBlock (hE : ∀ e, E e e) (scope : String) {steps : List StepDefinition}
    (h : ∀ p ∈ stepsCalls steps, Indifferent I E (call p.1 p.2 origin)) :
    Indifferent I E (compileBlock c call scope origin steps) :=
  indifferent_checkedBlock hE (indifferent_compileSteps hE steps h)

end Any

/-! ## One compiled shared step for each reference -/

/-- Only one action may stand in the place of each call. -/
def CallRelation.Functional (C : CallRelation) : Prop :=
  ∀ step call ⦃action action' : Action⦄, C step call action → C step call action' → action = action'

mutual

theorem toolFollows_unique {C : CallRelation}
    (hC : C.Functional) {step : String} :
    ∀ (tool : Tool) {action action' : Action}, toolFollows C step tool action →
      toolFollows C step tool action' → action = action'
  | .bash _ _, _, _, h, h' | .agent _, _, _, h, h' | .prompt _, _, _, h, h'
  | .set _ _ _, _, _, h, h' | .log _ _, _, _, h, h' | .goto _, _, _, h, h' | .leave, _, _, h, h'
  | .next, _, _, h, h' | .adapter _ _, _, _, h, h' => h.trans h'.symm
  | .foreach _ steps, _, _, h, h' | .whilst _ steps, _, _, h, h' | .range _ steps, _, _, h, h'
  | .retry _ steps, _, _, h, h' => by
    obtain ⟨body, rfl, hbody⟩ := h
    obtain ⟨body', rfl, hbody'⟩ := h'
    obtain rfl := stepsFollow_unique hC steps hbody hbody'
    rfl
  | .shared sharedCall, _, _, h, h' => hC step sharedCall h h'

theorem stepFollows_unique {C : CallRelation}
    (hC : C.Functional) :
    ∀ (step : Step Tool) {first first' : Step Action}, stepFollows C step first →
      stepFollows C step first' → first = first'
  | ⟨_, _, _, _, _, _, _, tool⟩, _, _, h, h' => by
    obtain ⟨action, rfl, haction⟩ := h
    obtain ⟨action', rfl, haction'⟩ := h'
    obtain rfl := toolFollows_unique hC tool haction haction'
    rfl

/-- Only one block follows a list of steps. -/
theorem stepsFollow_unique {C : CallRelation}
    (hC : C.Functional) :
    ∀ (steps : List (Step Tool)) {block block' : Block}, stepsFollow C steps block →
      stepsFollow C steps block' → block = block'
  | [], _, _, h, h' => h.trans h'.symm
  | step :: rest, _, _, h, h' => by
    obtain ⟨first, more, rfl, hfirst, hmore⟩ := h
    obtain ⟨first', more', rfl, hfirst', hmore'⟩ := h'
    obtain rfl := stepFollows_unique hC step hfirst hfirst'
    obtain rfl := stepsFollow_unique hC rest hmore hmore'
    rfl

end

namespace Compiler

variable {c : Compiler}

theorem CalleeFollows.unique_of_le {n : Nat} :
    ∀ {r : Reference} {callee callee' : CompiledShared Action}, c.CalleeFollows n r callee →
      c.CalleeFollows n r callee' → callee = callee' := by
  induction n with
  | zero => intro r callee callee' h _; exact h.elim
  | succ n ih =>
    intro r callee callee' h h'
    obtain ⟨d, body, hload, -, hbody, rfl⟩ := calleeFollows_succ.1 h
    obtain ⟨d', body', hload', -, hbody', rfl⟩ := calleeFollows_succ.1 h'
    rw [hload] at hload'
    cases hload'
    have heq : body = body' := by
      refine stepsFollow_unique ?_ d.steps hbody hbody'
      rintro step call _ _ ⟨r', callee, hr, hcallee, -, rfl⟩ ⟨r'', callee', hr', hcallee', -, rfl⟩
      rw [hr] at hr'
      cases hr'
      rw [ih hcallee hcallee']
    rw [heq]

/-- A reference has one compiled shared step. -/
theorem CalleeFollows.unique {m n : Nat} {r : Reference} {callee callee' : CompiledShared Action}
    (h : c.CalleeFollows m r callee) (h' : c.CalleeFollows n r callee') : callee = callee' :=
  unique_of_le (h.mono (Nat.le_max_left m n)) (h'.mono (Nat.le_max_right m n))

theorem CalleeFollows.height_eq {n : Nat} {r : Reference} {callee : CompiledShared Action}
    (h : c.CalleeFollows n r callee) :
    callee.height = Block.sharedHeight callee.body + 1 ∧ callee.key = r.key := by
  cases n with
  | zero => exact h.elim
  | succ n =>
    obtain ⟨d, body, -, -, -, rfl⟩ := calleeFollows_succ.1 h
    exact ⟨rfl, rfl⟩

/-- A compiled shared step is found in as many rounds as it is high. -/
theorem CalleeFollows.at_height {n : Nat} :
    ∀ {r : Reference} {callee : CompiledShared Action}, c.CalleeFollows n r callee →
      c.CalleeFollows callee.height r callee := by
  induction n with
  | zero => intro r callee h; exact h.elim
  | succ n ih =>
    intro r callee h
    obtain ⟨d, body, hload, hvalid, hbody, rfl⟩ := calleeFollows_succ.1 h
    refine calleeFollows_succ.2 ⟨d, body, hload, hvalid, ?_, rfl⟩
    refine stepsFollow_mono (fun hf hm => ?_) d.steps le_rfl hbody
    obtain ⟨r', callee, hr, hcallee, hcheck, rfl⟩ := hf
    exact ⟨r', callee, hr, (ih hcallee).mono hm, hcheck, rfl⟩

end Compiler

end Runbook
