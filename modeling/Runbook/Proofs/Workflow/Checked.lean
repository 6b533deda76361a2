import Runbook.Proofs.Portion
import Runbook.Proofs.Workflow.Valid

/-!
# Compiled steps

What becomes of a list of steps when it is compiled, given what becomes of the calls in it.

* `decides_compileSteps` says that compiling a list decides whether it is valid, and that the result
  follows the list;
* `CompileState.Reached` are the states that earlier compilations can leave, and
  `Definition.compile_inherits` says what a workflow compiled from any of them is like;
* `Definition.compile_sound` says that it is sound;
* `Block.Has.follows` says where a list inside a list comes from, valid steps or a shared step that
  is called, and `Definition.compile_named` that no step has a blank name, wherever it stands.
-/

namespace Runbook

open Portion

/-! ## Lists of steps -/

section Steps

variable {c : Compiler} {call : CallCompiler} {I : CompileState → Prop} {C : CallRelation}
  {F : Prop} {origin : String}

/-- What a list of steps is compiled to, and why it may not be. -/
abbrev DecidesBlock (c : Compiler) (I : CompileState → Prop) (C : CallRelation) (F : Prop)
    (inLoop : Bool) (steps : List StepDefinition) (m : Compile Block) : Prop :=
  Decides I (fun block => BlockValid c.adapters inLoop steps ∧ stepsFollow C steps block)
    (BlockValid c.adapters inLoop steps ∧ F) m

theorem decides_checkedBlock {scope : String} {inLoop : Bool} {steps : List StepDefinition}
    {m : Compile Block}
    (h : Decides I (fun block => stepsValid c.adapters (stepNames steps) inLoop steps ∧
        stepsFollow C steps block)
      (stepsValid c.adapters (stepNames steps) inLoop steps ∧ F) m) :
    DecidesBlock c I C F inLoop steps (checkedBlock scope steps m) := by
  refine Decides.bind (decides_check checkNames_eq_ok fun hf => ⟨hf.1.1, by simp⟩) fun _ hn => ?_
  exact h.weaken (fun block hb => ⟨⟨hn.1, hb.1⟩, hb.2⟩) fun hf => ⟨hf.1.2, hf.2⟩

mutual

theorem decides_compileTool :
    ∀ (tool : Tool) {scope step : String},
      (∀ p ∈ toolCalls step tool, Decides I (C p.1 p.2) F (call p.1 p.2 origin)) →
        Decides I (fun action => toolValid c.adapters tool ∧ toolFollows C step tool action)
          (toolValid c.adapters tool ∧ F) (compileTool c call scope origin step tool)
  | .bash _ _, _, _, _ | .agent _, _, _, _ | .prompt _, _, _, _ | .set _ _ _, _, _, _
  | .log _ _, _, _, _ | .goto _, _, _, _ | .leave, _, _, _ | .next, _, _, _
  | .adapter _ _, _, _, _ => decides_pure ⟨trivial, rfl⟩
  | .foreach _ steps, _, _, h | .whilst _ steps, _, _, h | .range _ steps, _, _, h
  | .retry _ steps, _, _, h =>
    (decides_checkedBlock (decides_compileSteps steps h)).map fun body hb => ⟨hb.1, body, rfl, hb.2⟩
  | .shared sharedCall, _, step, h =>
    (h (step, sharedCall) List.mem_cons_self).weaken (fun _ ha => ⟨trivial, ha⟩) fun hf => hf.2

theorem decides_compileStep :
    ∀ (step : Step Tool) {scope : String} {inLoop : Bool} {names : List String},
      (∀ p ∈ stepCalls step, Decides I (C p.1 p.2) F (call p.1 p.2 origin)) →
        Decides I (fun compiled => stepValid c.adapters names inLoop step ∧
            stepFollows C step compiled)
          (stepValid c.adapters names inLoop step ∧ F)
          (compileStep c call scope origin inLoop names step)
  | ⟨_, _, _, _, _, _, _, tool⟩, _, _, _, h =>
    Decides.bind (decides_check Compiler.checkStep_eq_ok fun hf => hf.1.1) fun _ hfits =>
      Decides.bind ((decides_compileTool tool h).weaken (fun _ ha => ha) fun hf => ⟨hf.1.2, hf.2⟩)
        fun action ha => decides_pure ⟨⟨hfits, ha.1⟩, action, rfl, ha.2⟩

theorem decides_compileSteps :
    ∀ (steps : List (Step Tool)) {scope : String} {inLoop : Bool} {names : List String},
      (∀ p ∈ stepsCalls steps, Decides I (C p.1 p.2) F (call p.1 p.2 origin)) →
        Decides I (fun block => stepsValid c.adapters names inLoop steps ∧
            stepsFollow C steps block)
          (stepsValid c.adapters names inLoop steps ∧ F)
          (compileSteps c call scope origin inLoop names steps)
  | [], _, _, _, _ => decides_pure ⟨trivial, rfl⟩
  | step :: rest, _, _, _, h =>
    Decides.bind ((decides_compileStep step fun p hp => h p (List.mem_append_left _ hp)).weaken
        (fun _ hs => hs) fun hf => ⟨hf.1.1, hf.2⟩) fun first hfirst =>
      Decides.bind ((decides_compileSteps rest fun p hp => h p (List.mem_append_right _ hp)).weaken
          (fun _ hs => hs) fun hf => ⟨hf.1.2, hf.2⟩) fun more hmore =>
        decides_pure ⟨⟨hfirst.1, hmore.1⟩, first, more, rfl, hfirst.2, hmore.2⟩

end

theorem decides_compileBlock (scope : String) {steps : List StepDefinition}
    (h : ∀ p ∈ stepsCalls steps, Decides I (C p.1 p.2) F (call p.1 p.2 origin)) :
    DecidesBlock c I C F false steps (compileBlock c call scope origin steps) :=
  decides_checkedBlock (decides_compileSteps steps h)

end Steps

/-! ## Soundness -/

/-- The states that compilations can leave, of whatever workflows, by whatever means, and whatever
their end was. -/
inductive CompileState.Reached : CompileState → Prop where
  /-- Before the first compilation. -/
  | empty (log : List LogLine) : Reached ⟨.empty, log⟩
  /-- After one more. -/
  | compile {s : CompileState} (d : Definition) (source : Option String) (c : Compiler)
    (h : Reached s) : Reached (d.compile source c s).2

/-- All shared steps that are ready have steps of which `B` holds. -/
def CompileState.All (B : Block → Prop) (s : CompileState) : Prop :=
  ∀ key callee, s.cache.find? key = some callee → B callee.body

/-- All shared steps that are ready are sound. -/
def CompileState.Sound (s : CompileState) : Prop :=
  ∀ key callee, s.cache.find? key = some callee → Block.Sound false callee.body

/-- The action of a call that is sound wherever it stands. -/
def SoundCall : CallRelation := fun _ _ action => ∀ names inLoop, actionSound names inLoop action

/-- A property that valid steps have when they are compiled, if the shared steps that they call have
it; then what stands in place of a call satisfies `C`. -/
structure Inherited (C : CallRelation) (B : Block → Prop) : Prop where
  call : ∀ {step : String} {sharedCall : SharedCall} {callee : CompiledShared Action}
    {inputs : KeyMap Value} {outputs : KeyMap String}, B callee.body →
      C step sharedCall (.shared callee inputs outputs)
  block : ∀ {adapters : List String} {steps : List StepDefinition} {block : Block},
    BlockValid adapters false steps → stepsFollow C steps block → B block

theorem inherited_sound : Inherited SoundCall (Block.Sound false) where
  call h := fun _ _ => actionSound_shared.2 h
  block hv hf := hv.sound (fun ha => ha) hf

variable {C : CallRelation} {B : Block → Prop}

theorem CompileState.All.keep {s : CompileState} (h : s.All B) {callee : CompiledShared Action}
    (hc : B callee.body) : (s.keep callee).All B := by
  intro key other hfind
  have hfind : (s.cache.insert callee.key callee).find? key = some other := hfind
  rw [KeyMap.find?_insert] at hfind
  split at hfind
  · cases hfind
    exact hc
  · exact h key other hfind

namespace Compiler

variable {c : Compiler} {call : CallCompiler}

theorem sharedStep_inherits (hB : Inherited C B) (reference : Reference)
    (h : ∀ step sharedCall origin, Decides (CompileState.All B) (C step sharedCall) False
      (call step sharedCall origin)) :
    Decides (CompileState.All B) (fun callee => B callee.body) False
      (c.sharedStep call reference) := by
  refine Decides.bind (decides_any _) fun d _ => ?_
  have hblock := decides_compileBlock (c := c) s!"shared '{d.name}'" fun p
    (_ : p ∈ stepsCalls d.steps) => h p.1 p.2 (reference.origin c.library.projectDir)
  refine Decides.bind (hblock.weaken (fun _ hb => hb) False.elim) fun body hb => ?_
  have hbody : B body := hB.block hb.1 hb.2
  intro s hs
  exact ⟨hs.keep hbody, hbody⟩

theorem callee_inherits (hB : Inherited C B) (depth : Nat) (reference : Reference)
    (h : ∀ step sharedCall origin, Decides (CompileState.All B) (C step sharedCall) False
      (call step sharedCall origin)) :
    Decides (CompileState.All B) (fun callee => B callee.body) False
      (c.callee call depth reference) := by
  intro s hs
  have hget : (get : Compile CompileState) s = (.ok s, s) := rfl
  rw [Ends, callee, bind_ok hget]
  cases hfind : s.cache.find? reference.key with
  | none => exact sharedStep_inherits hB reference h s hs
  | some callee =>
    refine Decides.bind (decides_any _) ?_ s hs
    exact fun _ _ => decides_pure (hs _ _ hfind)

/-- What the call of a shared step is compiled to satisfies `C`, whatever was compiled before. -/
theorem call_inherits (hB : Inherited C B) (c : Compiler) (budget : Nat) :
    ∀ (stack : List String) (step : String) (sharedCall : SharedCall) (origin : String),
      Decides (CompileState.All B) (C step sharedCall) False
        (c.call budget stack step sharedCall origin) := by
  induction budget with
  | zero =>
    intro stack step sharedCall origin
    refine Decides.bind (decides_any _) fun reference _ => ?_
    refine Decides.bind (decides_any _) fun _ _ => ?_
    exact decides_throw id
  | succ budget ih =>
    intro stack step sharedCall origin
    refine Decides.bind (decides_any _) fun reference _ => ?_
    refine Decides.bind (decides_any _) fun _ _ => ?_
    refine Decides.bind (callee_inherits hB _ reference (ih _)) fun callee hcallee => ?_
    refine Decides.bind (decides_any _) fun _ _ => ?_
    exact decides_pure (hB.call hcallee)

end Compiler

theorem Definition.compile_keeps (hB : Inherited C B) (d : Definition) (source : Option String)
    (c : Compiler) :
    Decides (CompileState.All B) (fun w => B w.body) False (d.compile source c) := by
  have hblock := decides_compileBlock (c := c) s!"workflow '{d.name}'" fun p
    (_ : p ∈ stepsCalls d.steps) =>
      c.call_inherits hB c.maxDepth [] p.1 p.2 (workflowOrigin source c.library.projectDir)
  refine Decides.bind (hblock.weaken (fun _ hb => hb) False.elim) fun body hb => ?_
  refine Decides.bind (decides_modify fun s hs => ?_) fun _ _ => decides_pure ?_
  · exact hs
  · exact hB.block hb.1 hb.2

theorem Definition.compile_keeps_sound (d : Definition) (source : Option String) (c : Compiler) :
    Decides CompileState.Sound (fun w => Block.Sound false w.body) False (d.compile source c) :=
  d.compile_keeps inherited_sound source c

theorem CompileState.Reached.all (hB : Inherited C B) {s : CompileState} (h : s.Reached) :
    s.All B := by
  induction h with
  | empty log => exact fun _ _ hfind => by cases hfind
  | compile d source c _ ih => exact (d.compile_keeps hB source c _ ih).1

theorem Definition.compile_inherits (hB : Inherited C B) {d : Definition} {source : Option String}
    {c : Compiler} {s t : CompileState} {w : Workflow} (hs : s.Reached)
    (h : d.compile source c s = (.ok w, t)) : B w.body := by
  have hw := (d.compile_keeps hB source c s (hs.all hB)).2
  rw [h] at hw
  exact hw

/-- **What is compiled is sound**, after whatever was compiled before. -/
theorem Definition.compile_sound {d : Definition} {source : Option String} {c : Compiler}
    {s t : CompileState} {w : Workflow} (hs : s.Reached)
    (h : d.compile source c s = (.ok w, t)) : Block.Sound false w.body :=
  Definition.compile_inherits inherited_sound hs h

/-- A loop whose passes jump over a command, and a call of a built-in shared step. -/
def tour : Definition where
  name := "tour"
  description := none
  version := "1"
  vars := .empty
  defaults := {}
  steps :=
    [Builtin.plainStep "each" (.foreach
        ⟨.array [.bool true, .bool false], "item", "item", none, none, .ascending, none⟩
        [Builtin.plainStep "over" (.goto "again"), Builtin.plainStep "skipped" (.bash "false" none),
          Builtin.plainStep "again" .next]),
      Builtin.plainStep "say"
        (.shared ⟨"builtin:announce", .ofList [("message", .bool true)], .empty⟩)]

/-- The compiler for a project without files and adapters. -/
def bareCompiler : Compiler := ⟨[], .ofFiles ⟨.empty, []⟩ "/", 5⟩

theorem tour_compiles : ∃ w t, tour.compile none bareCompiler .empty = (.ok w, t) := ⟨_, _, rfl⟩

/-! ## Names -/

/-- Steps without blank names, and so are those in all lists inside them. -/
def Block.Named (root : Block) : Prop :=
  ∀ inLoop block, root.Has inLoop block → ∀ step ∈ block, allBlank step.name = false

/-- The call of a shared step without blank names. -/
def NamedCall : CallRelation := fun _ _ action => ∃ callee inputs outputs,
  action = .shared callee inputs outputs ∧ Block.Named callee.body

/-- A step of a list that follows valid steps follows a valid one. -/
theorem tool_of_follows {C : CallRelation} {adapters names : List String} {inLoop : Bool}
    {steps : List StepDefinition} {block : Block} (hv : stepsValid adapters names inLoop steps)
    (hf : stepsFollow C steps block) {step : Step Action} (mem : step ∈ block) :
    ∃ tool, toolValid adapters tool ∧ toolFollows C step.name tool step.tool := by
  induction steps generalizing block with
  | nil =>
    rw [show block = [] from hf] at mem
    exact absurd mem List.not_mem_nil
  | cons d rest ih =>
    obtain ⟨first, more, rfl, hfirst, hmore⟩ := hf
    rcases List.mem_cons.1 mem with rfl | mem
    · obtain ⟨name, _, _, _, _, _, _, tool⟩ := d
      obtain ⟨action, rfl, haction⟩ := hfirst
      exact ⟨tool, hv.1.2, haction⟩
    · exact ih hv.2 hmore mem

/-- The body of a loop follows the steps of one. -/
theorem loop_of_follows {adapters : List String} {step : String} {tool : Tool} {action : Action}
    {body : Block} (hv : toolValid adapters tool) (hf : toolFollows NamedCall step tool action)
    (hb : action.loopBody? = some body) :
    ∃ steps, BlockValid adapters true steps ∧ stepsFollow NamedCall steps body := by
  cases tool with
  | foreach _ steps | whilst _ steps | range _ steps | retry _ steps =>
    obtain ⟨body', rfl, hbody⟩ := hf
    cases hb
    exact ⟨steps, hv, hbody⟩
  | shared _ =>
    obtain ⟨_, _, _, rfl, _⟩ := hf
    cases hb
  | bash _ _ | agent _ | prompt _ | set _ _ _ | log _ _ | goto _ | leave | next | adapter _ _ =>
    rw [show action = _ from hf] at hb
    cases hb

/-- A shared step that is called stands in place of a call. -/
theorem call_of_follows {step : String} {tool : Tool} {callee : CompiledShared Action}
    {inputs : KeyMap Value} {outputs : KeyMap String}
    (hf : toolFollows NamedCall step tool (.shared callee inputs outputs)) :
    Block.Named callee.body := by
  cases tool with
  | foreach _ _ | whilst _ _ | range _ _ | retry _ _ =>
    obtain ⟨_, heq, _⟩ := hf
    cases heq
  | shared _ =>
    obtain ⟨_, _, _, heq, hnamed⟩ := hf
    cases heq
    exact hnamed
  | bash _ _ | agent _ | prompt _ | set _ _ _ | log _ _ | goto _ | leave | next | adapter _ _ =>
    cases hf

/-- A list inside one that follows valid steps follows valid steps too, or is inside a shared step
that is called. -/
theorem Block.Has.follows {root block : Block} {inLoop : Bool} (h : root.Has inLoop block)
    {adapters : List String} {steps : List StepDefinition} (hv : BlockValid adapters false steps)
    (hf : stepsFollow NamedCall steps root) :
    (∃ inLoop' steps', BlockValid adapters inLoop' steps' ∧ stepsFollow NamedCall steps' block) ∨
      ∃ callee : Block, ∃ inLoop', callee.Named ∧ callee.Has inLoop' block := by
  induction h with
  | root => exact .inl ⟨false, steps, hv, hf⟩
  | loop _ mem body_eq ih =>
    rcases ih with ⟨_, _, hvalid, hfollows⟩ | ⟨callee, _, hnamed, hhas⟩
    · obtain ⟨tool, htool, haction⟩ := tool_of_follows hvalid.2 hfollows mem
      obtain ⟨steps', hsteps⟩ := loop_of_follows htool haction body_eq
      exact .inl ⟨true, steps', hsteps⟩
    · exact .inr ⟨callee, true, hnamed, hhas.loop mem body_eq⟩
  | shared _ mem tool_eq ih =>
    rcases ih with ⟨_, _, hvalid, hfollows⟩ | ⟨callee, _, hnamed, hhas⟩
    · obtain ⟨tool, -, haction⟩ := tool_of_follows hvalid.2 hfollows mem
      rw [tool_eq] at haction
      exact .inr ⟨_, false, call_of_follows haction, .root⟩
    · exact .inr ⟨callee, false, hnamed, hhas.shared mem tool_eq⟩

theorem inherited_named : Inherited NamedCall Block.Named where
  call h := ⟨_, _, _, rfl, h⟩
  block hv hf := by
    intro inLoop block hhas step mem
    rcases hhas.follows hv hf with ⟨_, steps, hvalid, hfollows⟩ | ⟨callee, _, hnamed, hinner⟩
    · refine hvalid.1.notBlank step.name ?_
      rw [← stepNames_of_follows hfollows]
      exact List.mem_map_of_mem mem
    · exact hnamed _ block hinner step mem

/-- **What is compiled has names**, after whatever was compiled before. -/
theorem Definition.compile_named {d : Definition} {source : Option String} {c : Compiler}
    {s t : CompileState} {w : Workflow} (hs : s.Reached)
    (h : d.compile source c s = (.ok w, t)) : w.body.Named :=
  Definition.compile_inherits inherited_named hs h

end Runbook
