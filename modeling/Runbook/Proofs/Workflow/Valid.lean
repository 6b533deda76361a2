import Runbook.Workflow.Compile

/-!
# Valid steps and sound blocks

What checking leaves true of the steps of a workflow that is ready to run: names are told apart,
jumps lead to steps of the same list, and only the bodies of loops ask something of a loop.

* `Block.Sound` says so of a list of steps with all the lists inside it;
* `Block.Has` are the lists inside a list, with whether each is the body of a loop, and
  `Action.body?` is the list right inside an action;
* `Block.position?_eq_some_iff` says where jumps lead in a list whose names are told apart;
* `Tool.Fits` and `NamesValid` are the rules for one list of steps, and `BlockValid` asks for them
  in a list and in all the loops in it;
* `stepsCalls` are the calls of shared steps in a list of steps;
* `stepsFollow` says that a block has the steps of a list in their order, given what stands in place
  of a call; `sound_of_follows` says that what follows valid steps is sound.
-/

namespace Runbook

mutual

/-- An action that can stand in a list of steps with these names. -/
def actionSound (names : List String) (inLoop : Bool) : Action → Prop
  | .goto target => target ∈ names
  | .leave | .next => inLoop = true
  | .foreach _ body | .whilst _ body | .range _ body | .retry _ body =>
    (stepNames body).Nodup ∧ stepsSound (stepNames body) true body
  | .shared ⟨_, _, body, _⟩ _ _ => (stepNames body).Nodup ∧ stepsSound (stepNames body) false body
  | .bash _ _ | .agent _ | .prompt _ | .set _ _ _ | .log _ _ | .adapter _ _ => True

/-- A step that can stand in a list of steps with these names. -/
def stepSound (names : List String) (inLoop : Bool) : Step Action → Prop
  | ⟨_, _, _, _, _, _, _, action⟩ => actionSound names inLoop action

/-- Steps that can stand in a list of steps with these names. -/
def stepsSound (names : List String) (inLoop : Bool) : List (Step Action) → Prop
  | [] => True
  | step :: rest => stepSound names inLoop step ∧ stepsSound names inLoop rest

end

/-- A list of steps in which nothing is left to go wrong with its structure; `inLoop` tells whether
it is the body of a loop. -/
def Block.Sound (inLoop : Bool) (block : Block) : Prop :=
  (stepNames block).Nodup ∧ stepsSound (stepNames block) inLoop block

/-- The body of a loop. -/
def Action.loopBody? : Action → Option Block
  | .foreach _ body | .whilst _ body | .range _ body | .retry _ body => some body
  | .bash _ _ | .agent _ | .prompt _ | .set _ _ _ | .log _ _ | .goto _ | .leave | .next
  | .shared _ _ _ | .adapter _ _ => none

/-- The lists of steps inside a list, with whether each is the body of a loop. -/
inductive Block.Has (root : Block) : Bool → Block → Prop where
  /-- The list itself. -/
  | root : Has root false root
  /-- The body of a loop. -/
  | loop {inLoop : Bool} {block body : Block} {step : Step Action} (outer : Has root inLoop block)
    (mem : step ∈ block) (body_eq : step.tool.loopBody? = some body) : Has root true body
  /-- The steps of a shared step that is called. -/
  | shared {inLoop : Bool} {block : Block} {step : Step Action} {callee : CompiledShared Action}
    {inputs : KeyMap Value} {outputs : KeyMap String} (outer : Has root inLoop block)
    (mem : step ∈ block) (tool_eq : step.tool = .shared callee inputs outputs) :
    Has root false callee.body

/-- The steps inside an action: the body of a loop, or the steps of a shared step that is called. -/
def Action.body? : Action → Option Block
  | .foreach _ body | .whilst _ body | .range _ body | .retry _ body => some body
  | .shared ⟨_, _, body, _⟩ _ _ => some body
  | .bash _ _ | .agent _ | .prompt _ | .set _ _ _ | .log _ _ | .goto _ | .leave | .next
  | .adapter _ _ => none

theorem Block.Has.inside {root block body : Block} {inLoop : Bool} {step : Step Action}
    (h : root.Has inLoop block) (mem : step ∈ block) (hb : step.tool.body? = some body) :
    ∃ inLoop', root.Has inLoop' body := by
  cases ht : step.tool with
  | foreach _ _ | whilst _ _ | range _ _ | retry _ _ =>
    rw [ht] at hb
    exact ⟨true, h.loop mem (by rw [ht]; exact hb)⟩
  | shared callee _ _ =>
    rw [ht] at hb
    cases hb
    exact ⟨false, h.shared mem ht⟩
  | bash _ _ | agent _ | prompt _ | set _ _ _ | log _ _ | goto _ | leave | next | adapter _ _ =>
    rw [ht] at hb
    cases hb

/-- What is inside a list inside another is inside that one. -/
theorem Block.Has.trans {root block inner : Block} {inLoop inLoop' : Bool}
    (h : root.Has inLoop block) (hi : block.Has inLoop' inner) :
    ∃ inLoop'', root.Has inLoop'' inner := by
  induction hi with
  | root => exact ⟨inLoop, h⟩
  | loop _ mem body_eq ih =>
    obtain ⟨_, ih⟩ := ih
    exact ⟨true, ih.loop mem body_eq⟩
  | shared _ mem tool_eq ih =>
    obtain ⟨_, ih⟩ := ih
    exact ⟨false, ih.shared mem tool_eq⟩

theorem stepSound_iff {names : List String} {inLoop : Bool} {step : Step Action} :
    stepSound names inLoop step ↔ actionSound names inLoop step.tool := by
  cases step
  rfl

theorem stepsSound_iff {names : List String} {inLoop : Bool} {steps : List (Step Action)} :
    stepsSound names inLoop steps ↔ ∀ step ∈ steps, actionSound names inLoop step.tool := by
  induction steps with
  | nil => simp [stepsSound]
  | cons step rest ih => rw [stepsSound, ih, List.forall_mem_cons, stepSound_iff]

theorem actionSound_shared {names : List String} {inLoop : Bool} {callee : CompiledShared Action}
    {inputs : KeyMap Value} {outputs : KeyMap String} :
    actionSound names inLoop (.shared callee inputs outputs) ↔ Block.Sound false callee.body := by
  cases callee
  rfl

theorem actionSound_loop {names : List String} {inLoop : Bool} {action : Action} {body : Block}
    (h : action.loopBody? = some body) :
    actionSound names inLoop action ↔ Block.Sound true body := by
  cases action with
  | foreach _ _ | whilst _ _ | range _ _ | retry _ _ => cases h; rfl
  | bash _ _ | agent _ | prompt _ | set _ _ _ | log _ _ | goto _ | leave | next | shared _ _ _
  | adapter _ _ => cases h

/-- All lists inside a sound list are sound. -/
theorem Block.Sound.has {root block : Block} {inLoop : Bool} (h : root.Sound false)
    (hb : root.Has inLoop block) : block.Sound inLoop := by
  induction hb with
  | root => exact h
  | loop _ mem body_eq ih =>
    exact (actionSound_loop body_eq).1 (stepsSound_iff.1 ih.2 _ mem)
  | shared _ mem tool_eq ih =>
    have hs := stepsSound_iff.1 ih.2 _ mem
    rw [tool_eq] at hs
    exact actionSound_shared.1 hs

/-- The position of a name is where the step of that name is. -/
theorem Block.position?_eq_some_iff {block : Block} (h : (stepNames block).Nodup) {name : String}
    {i : Nat} : block.position? name = some i ↔ block[i]?.map (·.name) = some name := by
  induction block generalizing i with
  | nil => simp [position?]
  | cons step rest ih =>
    obtain ⟨hnot, hrest⟩ := List.nodup_cons.1 h
    have hcons : position? (step :: rest) name =
        if step.name == name then some 0 else (position? rest name).map (· + 1) :=
      List.findIdx?_cons
    rw [hcons]
    by_cases hname : step.name = name
    · rw [if_pos (beq_iff_eq.2 hname)]
      cases i with
      | zero => simp [hname]
      | succ i =>
        -- no later step has the name once more
        refine ⟨fun hi => absurd hi (by simp), fun hi => absurd ?_ hnot⟩
        obtain ⟨other, hother, heq⟩ := Option.map_eq_some_iff.1 hi
        show step.name ∈ stepNames rest
        rw [hname, ← heq]
        exact List.mem_map_of_mem (List.mem_of_getElem? hother)
    · rw [if_neg (by simpa using hname)]
      cases i with
      | zero => simp [hname]
      | succ i => simpa using ih hrest

/-!
## Valid steps

What a list of steps has to be like to be compiled, and what it is compiled to, both without a
compiler.
-/

/-! ### Rules -/

/-- Names that the steps of one list can have. -/
structure NamesValid (names : List String) : Prop where
  notBlank : ∀ name ∈ names, allBlank name = false
  nodup : names.Nodup

/-- What a step can do in a list with these names, but for what lies inside its loop. -/
def Tool.Fits (adapters names : List String) (inLoop : Bool) : Tool → Prop
  | .set var _ _ => allBlank var = false
  | .goto target => target ∈ names
  | .leave | .next => inLoop = true
  | .adapter name _ => name ∈ adapters
  | .whilst loop _ => loop.maxPasses ≠ 0
  | .range loop _ => loop.stride ≠ 0
  | .retry loop _ => loop.maxAttempts ≠ 0
  | .bash _ _ | .agent _ | .prompt _ | .log _ _ | .foreach _ _ | .shared _ => True

mutual

/-- The steps inside a loop are valid. -/
def toolValid (adapters : List String) : Tool → Prop
  | .foreach _ steps | .whilst _ steps | .range _ steps | .retry _ steps =>
    NamesValid (stepNames steps) ∧ stepsValid adapters (stepNames steps) true steps
  | .bash _ _ | .agent _ | .prompt _ | .set _ _ _ | .log _ _ | .goto _ | .leave | .next
  | .shared _ | .adapter _ _ => True

/-- A step is valid in a list with these names. -/
def stepValid (adapters names : List String) (inLoop : Bool) : Step Tool → Prop
  | ⟨_, _, _, _, _, _, _, tool⟩ => tool.Fits adapters names inLoop ∧ toolValid adapters tool

/-- Steps are valid in a list with these names. -/
def stepsValid (adapters names : List String) (inLoop : Bool) : List (Step Tool) → Prop
  | [] => True
  | step :: rest => stepValid adapters names inLoop step ∧ stepsValid adapters names inLoop rest

end

/-- A list of steps is valid with all the loops in it; `inLoop` tells whether it is the body of a
loop itself. -/
def BlockValid (adapters : List String) (inLoop : Bool) (steps : List StepDefinition) : Prop :=
  NamesValid (stepNames steps) ∧ stepsValid adapters (stepNames steps) inLoop steps

theorem checkNames_eq_ok {scope : String} {names : List String} :
    ∀ {seen : List String} {i : Nat}, checkNames scope seen i names = .ok () ↔
      NamesValid names ∧ ∀ name ∈ names, name ∉ seen := by
  induction names with
  | nil =>
    intro seen i
    exact ⟨fun _ => ⟨⟨by simp, List.nodup_nil⟩, by simp⟩, fun _ => rfl⟩
  | cons name rest ih =>
    intro seen i
    rw [checkNames]
    by_cases hb : allBlank name = true
    · rw [if_pos hb]
      refine ⟨fun h => (by cases h), fun h => ?_⟩
      rw [h.1.notBlank name List.mem_cons_self] at hb
      cases hb
    by_cases hs : name ∈ seen
    · rw [if_neg hb, if_pos (List.contains_iff_mem.2 hs)]
      exact ⟨fun h => (by cases h), fun h => absurd hs (h.2 name List.mem_cons_self)⟩
    rw [if_neg hb, if_neg (by rwa [List.contains_iff_mem]), ih]
    constructor
    · rintro ⟨⟨hblank, hnodup⟩, hseen⟩
      refine ⟨⟨?_, ?_⟩, ?_⟩
      · exact List.forall_mem_cons.2 ⟨Bool.eq_false_iff.2 hb, hblank⟩
      · exact List.nodup_cons.2 ⟨fun h => hseen name h List.mem_cons_self, hnodup⟩
      · exact List.forall_mem_cons.2 ⟨hs, fun n hn h => hseen n hn (List.mem_cons_of_mem _ h)⟩
    · rintro ⟨⟨hblank, hnodup⟩, hseen⟩
      obtain ⟨hname, hrest⟩ := List.nodup_cons.1 hnodup
      refine ⟨⟨(List.forall_mem_cons.1 hblank).2, hrest⟩, fun n hn h => ?_⟩
      rcases List.mem_cons.1 h with rfl | h
      · exact hname hn
      · exact hseen n (List.mem_cons_of_mem _ hn) h

theorem Compiler.checkStep_eq_ok {c : Compiler} {names : List String} {inLoop : Bool}
    {step : String} {tool : Tool} :
    c.checkStep names inLoop step tool = .ok () ↔ tool.Fits c.adapters names inLoop := by
  cases tool with
  | goto target => simp [checkStep, Tool.Fits]
  | leave | next => simp [checkStep, Tool.Fits]
  | adapter name params => simp [checkStep, Tool.Fits]
  | set var value parseJson =>
    by_cases h : allBlank var = true
    · simp [checkStep, Tool.Fits, Tool.invalid?, h]
    · simp [checkStep, Tool.Fits, Tool.invalid?, h]
  | whilst loop steps =>
    by_cases h : loop.maxPasses = 0
    · simp [checkStep, Tool.Fits, Tool.invalid?, h]
    · simp [checkStep, Tool.Fits, Tool.invalid?, h]
  | range loop steps =>
    by_cases h : loop.stride = 0
    · simp [checkStep, Tool.Fits, Tool.invalid?, h]
    · simp [checkStep, Tool.Fits, Tool.invalid?, h]
  | retry loop steps =>
    by_cases h : loop.maxAttempts = 0
    · simp [checkStep, Tool.Fits, Tool.invalid?, h]
    · simp [checkStep, Tool.Fits, Tool.invalid?, h]
  | bash _ _ | agent _ | prompt _ | log _ _ | foreach _ _ | shared _ =>
    exact ⟨fun _ => trivial, fun _ => rfl⟩

/-! ### Calls -/

mutual

/-- The calls of shared steps that the tool of a step makes, each with the name of its step. -/
def toolCalls (step : String) : Tool → List (String × SharedCall)
  | .shared call => [(step, call)]
  | .foreach _ steps | .whilst _ steps | .range _ steps | .retry _ steps => stepsCalls steps
  | .bash _ _ | .agent _ | .prompt _ | .set _ _ _ | .log _ _ | .goto _ | .leave | .next
  | .adapter _ _ => []

/-- The calls of shared steps that a step makes. -/
def stepCalls : Step Tool → List (String × SharedCall)
  | ⟨name, _, _, _, _, _, _, tool⟩ => toolCalls name tool

/-- The calls of shared steps that steps make. -/
def stepsCalls : List (Step Tool) → List (String × SharedCall)
  | [] => []
  | step :: rest => stepCalls step ++ stepsCalls rest

end

/-! ### What steps are compiled to -/

/-- What may stand in place of the call of a step. -/
abbrev CallRelation := (step : String) → SharedCall → Action → Prop

mutual

/-- An action does what a tool says. -/
def toolFollows (C : CallRelation) (step : String) : Tool → Action → Prop
  | .bash command timeout, action => action = .bash command timeout
  | .agent text, action => action = .agent text
  | .prompt text, action => action = .prompt text
  | .set var value parseJson, action => action = .set var value parseJson
  | .log message level, action => action = .log message level
  | .goto target, action => action = .goto target
  | .leave, action => action = .leave
  | .next, action => action = .next
  | .foreach loop steps, action => ∃ body, action = .foreach loop body ∧ stepsFollow C steps body
  | .whilst loop steps, action => ∃ body, action = .whilst loop body ∧ stepsFollow C steps body
  | .range loop steps, action => ∃ body, action = .range loop body ∧ stepsFollow C steps body
  | .retry loop steps, action => ∃ body, action = .retry loop body ∧ stepsFollow C steps body
  | .shared call, action => C step call action
  | .adapter name params, action => action = .adapter name params

/-- A step is what it is in the definition, with an action that does what the tool says. -/
def stepFollows (C : CallRelation) : Step Tool → Step Action → Prop
  | ⟨name, condition, onError, outputVar, visible, cwd, model, tool⟩, step =>
    ∃ action, step = ⟨name, condition, onError, outputVar, visible, cwd, model, action⟩ ∧
      toolFollows C name tool action

/-- A block has the steps of a list, in their order. -/
def stepsFollow (C : CallRelation) : List (Step Tool) → Block → Prop
  | [], block => block = []
  | step :: rest, block =>
    ∃ first more, block = first :: more ∧ stepFollows C step first ∧ stepsFollow C rest more

end

theorem stepNames_of_follows {C : CallRelation} {steps : List (Step Tool)} :
    ∀ {block : Block}, stepsFollow C steps block → stepNames block = stepNames steps := by
  induction steps with
  | nil => intro block h; rw [h]; rfl
  | cons step rest ih =>
    rintro block ⟨first, more, rfl, hfirst, hmore⟩
    obtain ⟨name, _, _, _, _, _, _, tool⟩ := step
    obtain ⟨action, rfl, -⟩ := hfirst
    show name :: stepNames more = name :: stepNames rest
    rw [ih hmore]

mutual

/-- What follows a valid tool is sound, if what stands in place of calls is. -/
theorem toolFollows_sound {C : CallRelation}
    (hC : ∀ {step call action}, C step call action →
      ∀ names inLoop, actionSound names inLoop action) {adapters : List String} :
    ∀ (tool : Tool) {names : List String} {inLoop : Bool} {step : String} {action : Action},
      tool.Fits adapters names inLoop → toolValid adapters tool → toolFollows C step tool action →
        actionSound names inLoop action
  | .bash _ _, _, _, _, _, _, _, h | .agent _, _, _, _, _, _, _, h
  | .prompt _, _, _, _, _, _, _, h | .set _ _ _, _, _, _, _, _, _, h
  | .log _ _, _, _, _, _, _, _, h | .adapter _ _, _, _, _, _, _, _, h => h ▸ trivial
  | .goto _, _, _, _, _, hfits, _, h | .leave, _, _, _, _, hfits, _, h
  | .next, _, _, _, _, hfits, _, h => h ▸ hfits
  | .foreach _ steps, _, _, _, _, _, hv, h | .whilst _ steps, _, _, _, _, _, hv, h
  | .range _ steps, _, _, _, _, _, hv, h | .retry _ steps, _, _, _, _, _, hv, h => by
    obtain ⟨body, rfl, hbody⟩ := h
    have hnames := stepNames_of_follows hbody
    exact ⟨hnames ▸ hv.1.nodup, hnames ▸ stepsFollow_sound hC steps hv.2 hbody⟩
  | .shared _, _, _, _, _, _, _, h => hC h _ _

theorem stepFollows_sound {C : CallRelation}
    (hC : ∀ {step call action}, C step call action →
      ∀ names inLoop, actionSound names inLoop action) {adapters : List String} :
    ∀ (step : Step Tool) {names : List String} {inLoop : Bool} {compiled : Step Action},
      stepValid adapters names inLoop step → stepFollows C step compiled →
        stepSound names inLoop compiled
  | ⟨_, _, _, _, _, _, _, tool⟩, _, _, _, hv, h => by
    obtain ⟨action, rfl, haction⟩ := h
    exact toolFollows_sound hC tool hv.1 hv.2 haction

theorem stepsFollow_sound {C : CallRelation}
    (hC : ∀ {step call action}, C step call action →
      ∀ names inLoop, actionSound names inLoop action) {adapters : List String} :
    ∀ (steps : List (Step Tool)) {names : List String} {inLoop : Bool} {block : Block},
      stepsValid adapters names inLoop steps → stepsFollow C steps block →
        stepsSound names inLoop block
  | [], _, _, _, _, h => h ▸ trivial
  | step :: rest, _, _, _, hv, h => by
    obtain ⟨first, more, rfl, hfirst, hmore⟩ := h
    exact ⟨stepFollows_sound hC step hv.1 hfirst, stepsFollow_sound hC rest hv.2 hmore⟩

end

/-- What follows a valid list of steps is sound. -/
theorem BlockValid.sound {C : CallRelation} {adapters : List String} {inLoop : Bool}
    {steps : List StepDefinition} {block : Block} (hv : BlockValid adapters inLoop steps)
    (hC : ∀ {step call action}, C step call action →
      ∀ names inLoop, actionSound names inLoop action) (h : stepsFollow C steps block) :
    block.Sound inLoop := by
  have hnames := stepNames_of_follows h
  exact ⟨hnames ▸ hv.1.nodup, hnames ▸ stepsFollow_sound hC steps hv.2 h⟩

/-! ### Heights -/

mutual

/-- What stands in place of calls may be anything that holds of what is as high as the block. -/
theorem toolFollows_mono {C D : CallRelation} {m : Nat}
    (h : ∀ {step call action}, C step call action → Block.actionHeight action ≤ m →
      D step call action) {step : String} :
    ∀ (tool : Tool) {action : Action}, Block.actionHeight action ≤ m →
      toolFollows C step tool action → toolFollows D step tool action
  | .bash _ _, _, _, hf | .agent _, _, _, hf | .prompt _, _, _, hf | .set _ _ _, _, _, hf
  | .log _ _, _, _, hf | .goto _, _, _, hf | .leave, _, _, hf | .next, _, _, hf
  | .adapter _ _, _, _, hf => hf
  | .foreach _ steps, _, hm, hf | .whilst _ steps, _, hm, hf | .range _ steps, _, hm, hf
  | .retry _ steps, _, hm, hf => by
    obtain ⟨body, rfl, hbody⟩ := hf
    exact ⟨body, rfl, stepsFollow_mono h steps hm hbody⟩
  | .shared _, _, hm, hf => h hf hm

theorem stepFollows_mono {C D : CallRelation} {m : Nat}
    (h : ∀ {step call action}, C step call action → Block.actionHeight action ≤ m →
      D step call action) :
    ∀ (step : Step Tool) {compiled : Step Action}, Block.stepHeight compiled ≤ m →
      stepFollows C step compiled → stepFollows D step compiled
  | ⟨_, _, _, _, _, _, _, tool⟩, _, hm, hf => by
    obtain ⟨action, rfl, haction⟩ := hf
    exact ⟨action, rfl, toolFollows_mono h tool hm haction⟩

theorem stepsFollow_mono {C D : CallRelation} {m : Nat}
    (h : ∀ {step call action}, C step call action → Block.actionHeight action ≤ m →
      D step call action) :
    ∀ (steps : List (Step Tool)) {block : Block}, Block.sharedHeight block ≤ m →
      stepsFollow C steps block → stepsFollow D steps block
  | [], _, _, hf => hf
  | step :: rest, _, hm, hf => by
    obtain ⟨first, more, rfl, hfirst, hmore⟩ := hf
    have hm := Nat.max_le.1 hm
    exact ⟨first, more, rfl, stepFollows_mono h step hm.1 hfirst,
      stepsFollow_mono h rest hm.2 hmore⟩

end

/-- Actions stand in place of calls, and the highest of them is as high as something. -/
structure Called (C : CallRelation) (calls : List (String × SharedCall)) (height : Nat) : Prop where
  bounded : ∀ p ∈ calls, ∃ action, C p.1 p.2 action ∧ Block.actionHeight action ≤ height
  attained : 0 < height →
    ∃ p ∈ calls, ∃ action, C p.1 p.2 action ∧ Block.actionHeight action = height

theorem called_nil (C : CallRelation) : Called C [] 0 where
  bounded _ h := absurd h List.not_mem_nil
  attained h := absurd h (Nat.lt_irrefl 0)

theorem Called.append {C : CallRelation} {calls more : List (String × SharedCall)} {m n : Nat}
    (h : Called C calls m) (h' : Called C more n) : Called C (calls ++ more) (max m n) where
  bounded p hp := by
    rcases List.mem_append.1 hp with hp | hp
    · obtain ⟨action, hC, hm⟩ := h.bounded p hp
      exact ⟨action, hC, Nat.le_trans hm (Nat.le_max_left m n)⟩
    · obtain ⟨action, hC, hn⟩ := h'.bounded p hp
      exact ⟨action, hC, Nat.le_trans hn (Nat.le_max_right m n)⟩
  attained hpos := by
    rcases Nat.le_total m n with hmn | hnm
    · rw [Nat.max_eq_right hmn] at hpos ⊢
      obtain ⟨p, hp, hC⟩ := h'.attained hpos
      exact ⟨p, List.mem_append_right _ hp, hC⟩
    · rw [Nat.max_eq_left hnm] at hpos ⊢
      obtain ⟨p, hp, hC⟩ := h.attained hpos
      exact ⟨p, List.mem_append_left _ hp, hC⟩

theorem called_singleton {C : CallRelation} {step : String} {call : SharedCall} {action : Action}
    (h : C step call action) : Called C [(step, call)] (Block.actionHeight action) where
  bounded p hp := by
    rw [List.mem_singleton.1 hp]
    exact ⟨action, h, Nat.le_refl _⟩
  attained _ := ⟨(step, call), List.mem_singleton_self _, action, h, rfl⟩

mutual

theorem toolFollows_called {C : CallRelation} {step : String} :
    ∀ (tool : Tool) {action : Action}, toolFollows C step tool action →
      Called C (toolCalls step tool) (Block.actionHeight action)
  | .bash _ _, _, h | .agent _, _, h | .prompt _, _, h | .set _ _ _, _, h | .log _ _, _, h
  | .goto _, _, h | .leave, _, h | .next, _, h | .adapter _ _, _, h => h ▸ called_nil C
  | .foreach _ steps, _, h | .whilst _ steps, _, h | .range _ steps, _, h
  | .retry _ steps, _, h => by
    obtain ⟨body, rfl, hbody⟩ := h
    exact stepsFollow_called steps hbody
  | .shared _, _, h => called_singleton h

theorem stepFollows_called {C : CallRelation} :
    ∀ (step : Step Tool) {compiled : Step Action}, stepFollows C step compiled →
      Called C (stepCalls step) (Block.stepHeight compiled)
  | ⟨_, _, _, _, _, _, _, tool⟩, _, h => by
    obtain ⟨action, rfl, haction⟩ := h
    exact toolFollows_called tool haction

/-- The height of a block is that of the highest call in the steps that it follows. -/
theorem stepsFollow_called {C : CallRelation} :
    ∀ (steps : List (Step Tool)) {block : Block}, stepsFollow C steps block →
      Called C (stepsCalls steps) (Block.sharedHeight block)
  | [], _, h => h ▸ called_nil C
  | step :: rest, _, h => by
    obtain ⟨first, more, rfl, hfirst, hmore⟩ := h
    exact (stepFollows_called step hfirst).append (stepsFollow_called rest hmore)

end

end Runbook
