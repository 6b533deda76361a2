import Runbook.Proofs.Workflow.Callee
import Runbook.Proofs.Workflow.Checked

/-!
# Compilation decides well-formedness

A workflow is compiled exactly if it is well formed, and what it is compiled to has its steps.

* `CompileState.Follows` is the invariant of the cache: each shared step that is ready is that of a
  reference;
* `Compiler.decides_call` is the induction over the calls that may still lie in each other: a call
  on the way from a workflow fails only if the workflow is not well formed;
* `Definition.compile_iff_wellFormed` is the result.
-/

namespace Runbook

open Portion

/-- Every shared step that is ready is that of a reference. -/
def CompileState.Follows (c : Compiler) (s : CompileState) : Prop :=
  ∀ key callee, s.cache.find? key = some callee →
    ∃ r, c.library.Resolves r ∧ r.key = key ∧ c.CalleeFollows callee.height r callee

namespace Compiler

variable {c : Compiler} {root b : Bundle} {rs : List Reference}

theorem checkCircle_eq_ok {stack : List String} {key : String} :
    checkCircle stack key = .ok () ↔ key ∉ stack := by
  simp [checkCircle]

theorem checkDepth_eq_ok {depth : Nat} : c.checkDepth depth = .ok () ↔ depth ≤ c.maxDepth := by
  simp [checkDepth]

/-- What a call on a way of `depth` calls is compiled to. -/
def CallDone (c : Compiler) (depth : Nat) (origin : String) : CallRelation :=
  fun step call action => c.CallFollows (Block.actionHeight action) origin step call action ∧
    depth + Block.actionHeight action ≤ c.maxDepth

/-- What a shared step below `depth` others is compiled to. -/
def CalleeDone (c : Compiler) (depth : Nat) (r : Reference) (callee : CompiledShared Action) :
    Prop :=
  c.CalleeFollows callee.height r callee ∧ depth + callee.height ≤ c.maxDepth

/-- A list of steps whose calls are compiled as they should be. -/
theorem follows_of_callDone {depth : Nat} {origin : String} {steps : List StepDefinition}
    {block : Block} (h : stepsFollow (c.CallDone depth origin) steps block)
    (hd : depth ≤ c.maxDepth) :
    stepsFollow (c.CallFollows (Block.sharedHeight block) origin) steps block ∧
      depth + Block.sharedHeight block ≤ c.maxDepth := by
  refine ⟨stepsFollow_mono (fun hf hm => hf.1.mono hm) steps le_rfl h, ?_⟩
  rcases Nat.eq_zero_or_pos (Block.sharedHeight block) with hzero | hpos
  · omega
  · obtain ⟨p, -, action, hdone, hheight⟩ := (stepsFollow_called steps h).attained hpos
    exact hheight ▸ hdone.2

/-- The shared step whose steps were compiled below `depth` others, itself one of them. -/
theorem calleeDone_of_callDone {depth : Nat} {r : Reference} {d : SharedDefinition} {body : Block}
    (hload : c.library.load r = .ok d) (hdepth : depth < c.maxDepth)
    (hv : BlockValid c.adapters false d.steps)
    (hbody : stepsFollow (c.CallDone (depth + 1) (c.bundle r d).origin) d.steps body) :
    c.CalleeDone depth r
      ⟨r.key, ⟨d.name, d.inputs, d.outputs⟩, body, Block.sharedHeight body + 1⟩ := by
  obtain ⟨hfollows, hheight⟩ := follows_of_callDone hbody hdepth
  refine ⟨calleeFollows_succ.2 ⟨d, body, hload, hv, hfollows, rfl⟩, ?_⟩
  show depth + (Block.sharedHeight body + 1) ≤ c.maxDepth
  omega

theorem BundleValid.load (h : c.BundleValid b) {r : Reference} (hl : c.Leads b r) :
    ∃ d, c.library.load r = .ok d := by
  obtain ⟨p, hp, hr⟩ := hl
  obtain ⟨r', d, hr', hload, -⟩ := h.calls p hp
  rw [hr'] at hr
  cases hr
  exact ⟨d, hload⟩

theorem follows_keep {s : CompileState} (hs : s.Follows c) {r : Reference}
    (hr : c.library.Resolves r) {callee : CompiledShared Action}
    (hcallee : c.CalleeFollows callee.height r callee) (hkey : callee.key = r.key) :
    (s.keep callee).Follows c := by
  intro key other hfind
  have hfind : (s.cache.insert callee.key callee).find? key = some other := hfind
  rw [KeyMap.find?_insert] at hfind
  split at hfind
  · next heq =>
    cases hfind
    exact ⟨r, hr, by rw [heq, hkey], hcallee⟩
  · exact hs key other hfind

theorem decides_sharedStep {call : CallCompiler} {r : Reference} (hpath : c.Path root rs b)
    (hl : c.Leads b r) (hdepth : rs.length < c.maxDepth)
    (h : ∀ d, c.library.load r = .ok d → ∀ p ∈ stepsCalls d.steps,
      Decides (CompileState.Follows c)
        (c.CallDone (rs.length + 1) (c.bundle r d).origin p.1 p.2) (c.WellFormed root)
        (call p.1 p.2 (c.bundle r d).origin)) :
    Decides (CompileState.Follows c) (c.CalleeDone rs.length r) (c.WellFormed root)
      (c.sharedStep call r) := by
  refine Decides.bind (R := fun d => c.library.load r = .ok d)
    (decides_lift (fun _ hd => hd) fun e he hw => ?_) fun d hload => ?_
  · obtain ⟨d, hload⟩ := (hw.path hpath).load hl
    rw [hload] at he
    cases he
  refine Decides.bind ((decides_compileBlock _ (h d hload)).weaken (fun _ hb => hb)
    fun hw => ⟨(hw.path (hpath.snoc hl hload)).block, hw⟩) fun body hbody => ?_
  have hdone := calleeDone_of_callDone hload hdepth hbody.1 hbody.2
  obtain ⟨p, -, hr⟩ := hl
  exact fun s hs => ⟨follows_keep hs ⟨_, _, hr⟩ hdone.1 rfl, hdone⟩

/-- A shared step that is ready is taken as it is, unless the chain becomes too long. -/
theorem decides_callee (hk : c.library.Keyed) {call : CallCompiler} {r : Reference}
    (hpath : c.Path root rs b) (hl : c.Leads b r) (hdepth : rs.length < c.maxDepth)
    (h : ∀ d, c.library.load r = .ok d → ∀ p ∈ stepsCalls d.steps,
      Decides (CompileState.Follows c)
        (c.CallDone (rs.length + 1) (c.bundle r d).origin p.1 p.2) (c.WellFormed root)
        (call p.1 p.2 (c.bundle r d).origin)) :
    Decides (CompileState.Follows c) (c.CalleeDone rs.length r) (c.WellFormed root)
      (c.callee call rs.length r) := by
  intro s hs
  have hget : (get : Compile CompileState) s = (.ok s, s) := rfl
  rw [Ends, callee, bind_ok hget]
  cases hfind : s.cache.find? r.key with
  | none => exact decides_sharedStep hpath hl hdepth h s hs
  | some callee =>
    obtain ⟨r', hr', hkey, hcallee⟩ := hs _ _ hfind
    have hr : c.library.Resolves r := by
      obtain ⟨p, -, hr⟩ := hl
      exact ⟨_, _, hr⟩
    obtain rfl := hk r' r hr' hr hkey
    refine Decides.bind (decides_check checkDepth_eq_ok fun hw => ?_)
      (fun _ hle => decides_pure ⟨hcallee, hle⟩) s hs
    -- the height is that of a chain, and the way goes on along it
    obtain ⟨more, hchain, hlength⟩ := hcallee.exists_chain
    have hle := hw.depth _ (hpath.chain_append hl hchain)
    rw [List.length_append, List.length_cons] at hle
    omega

theorem CallValid.resolve {p : String × SharedCall} (h : c.CallValid b p) {r : Reference}
    (hr : c.library.resolve p.2.uses b.origin = .ok r) {callee : CompiledShared Action} {n : Nat}
    (hcallee : c.CalleeFollows n r callee) : callee.signature.checkCall p.1 p.2 = .ok () := by
  obtain ⟨r', d, hr', hload, hcheck⟩ := h
  rw [hr'] at hr
  cases hr
  rw [hcallee.signature hload]
  exact hcheck

/-- What begins every call: the reference is looked up, and it is not one that the way has gone
through. -/
theorem decides_reference (hk : c.library.Keyed) (hpath : c.Path root rs b)
    {p : String × SharedCall} (hp : p ∈ stepsCalls b.steps) {I : CompileState → Prop}
    {R : Action → Prop} {m : Reference → Compile Action}
    (hm : ∀ r, c.library.resolve p.2.uses b.origin = .ok r →
      Decides I R (c.WellFormed root) (m r)) :
    Decides I R (c.WellFormed root) (do
      let r ← c.library.resolve p.2.uses b.origin
      checkCircle (rs.map (·.key)) r.key
      m r : Compile Action) := by
  refine Decides.bind (R := fun r => c.library.resolve p.2.uses b.origin = .ok r)
    (decides_lift (fun _ hr => hr) fun e he hw => ?_) fun r hr => ?_
  · obtain ⟨r, d, hr, -⟩ := (hw.path hpath).calls p hp
    rw [hr] at he
    cases he
  refine Decides.bind (decides_check checkCircle_eq_ok fun hw hmem => ?_) fun _ _ => hm r hr
  -- a key that the way has gone through is that of the same shared step, which is then in a cycle
  have hl : c.Leads b r := ⟨p, hp, hr⟩
  obtain ⟨r', hr', hkey⟩ := List.mem_map.1 hmem
  obtain rfl := hk r' r (hpath.resolves hr') ⟨_, _, hr⟩ hkey
  exact hw.acyclic r' (hpath.reaches hl) (hpath.transGen hl hr')

/-- **A call on the way from a bundle** is compiled to a call of the shared step that it leads to,
and this fails only if the bundle is not well formed. -/
theorem decides_call (hk : c.library.Keyed) (budget : Nat) :
    ∀ {rs : List Reference} {b : Bundle}, c.Path root rs b → rs.length + budget = c.maxDepth →
      ∀ p ∈ stepsCalls b.steps,
        Decides (CompileState.Follows c) (c.CallDone rs.length b.origin p.1 p.2)
          (c.WellFormed root) (c.call budget (rs.map (·.key)) p.1 p.2 b.origin) := by
  -- the calls of the way and the budget are as many as there may be, so the call that finds the
  -- budget used up makes a chain that is too long
  induction budget with
  | zero =>
    intro rs b hpath hbudget p hp
    refine decides_reference hk hpath hp fun r hr => decides_throw fun hw => ?_
    have hle := hw.depth _ (hpath.chain ⟨p, hp, hr⟩)
    rw [List.length_append, List.length_singleton] at hle
    omega
  | succ budget ih =>
    intro rs b hpath hbudget p hp
    refine decides_reference hk hpath hp fun r hr => ?_
    rw [List.length_map]
    refine Decides.bind (decides_callee hk hpath ⟨p, hp, hr⟩ (by omega) fun d hload q hq => ?_)
      fun callee hcallee => ?_
    · have hcall := ih (hpath.snoc ⟨p, hp, hr⟩ hload) (by simp; omega) q hq
      rwa [List.map_append, List.length_append] at hcall
    refine Decides.bind (decides_lift (R := fun _ => _) (fun _ hcheck => hcheck) fun e he hw => ?_)
      fun _ hcheck => decides_pure ⟨⟨r, callee, hr, hcallee.1, hcheck, rfl⟩, hcallee.2⟩
    rw [((hw.path hpath).calls p hp).resolve hr hcallee.1] at he
    cases he

end Compiler

/-! ## Workflows -/

/-- What a workflow is compiled to. -/
structure Workflow.Compiled (w : Workflow) (d : Definition) (source : Option String)
    (c : Compiler) : Prop where
  /-- It has the steps of the definition, in their order, and so have the shared steps in it. -/
  steps : stepsFollow (c.CallFollows (Block.sharedHeight w.body) (d.bundle source c).origin) d.steps
    w.body
  /-- In each list of steps the position of a name is where the step of that name is. -/
  positions : ∀ inLoop b, w.body.Has inLoop b → ∀ name i,
    Block.position? b name = some i ↔ b[i]?.map (·.name) = some name
  /-- The chains of calls in it are not too long. -/
  height : Block.sharedHeight w.body ≤ c.maxDepth

/-- Compiling a workflow fails only if it is not well formed. -/
theorem Definition.decides_compile (d : Definition) (source : Option String) {c : Compiler}
    (hk : c.library.Keyed) :
    Decides (CompileState.Follows c)
      (fun w => BlockValid c.adapters false d.steps ∧
        stepsFollow (c.CallFollows (Block.sharedHeight w.body) (d.bundle source c).origin) d.steps
          w.body ∧ Block.sharedHeight w.body ≤ c.maxDepth)
      (d.WellFormed source c) (d.compile source c) := by
  have hcalls := Compiler.decides_call hk c.maxDepth (.nil : c.Path (d.bundle source c) [] _)
    (Nat.zero_add _)
  have hblock := decides_compileBlock (c := c) s!"workflow '{d.name}'" hcalls
  refine Decides.bind (hblock.weaken (fun _ hb => hb) fun hw => ⟨hw.valid.block, hw⟩)
    fun body hbody => ?_
  obtain ⟨hfollows, hheight⟩ := Compiler.follows_of_callDone hbody.2 (Nat.zero_le _)
  refine Decides.bind (decides_modify fun s hs => ?_) fun _ _ => decides_pure ?_
  · exact hs
  · exact ⟨hbody.1, hfollows, by simpa using hheight⟩

/-- What is compiled is also compiled if longer chains of calls are allowed. -/
theorem Definition.compiles_of_maxDepth_le (d : Definition) (source : Option String) {c : Compiler}
    (hk : c.library.Keyed) {limit : Nat} (hle : c.maxDepth ≤ limit) {w : Workflow}
    {t : CompileState} (h : d.compile source c .empty = (.ok w, t)) :
    ∃ w t, d.compile source { c with maxDepth := limit } .empty = (.ok w, t) := by
  have hdecides := (d.decides_compile source hk .empty fun _ _ hfind => by cases hfind).2
  rw [h] at hdecides
  obtain ⟨hvalid, hfollows, hheight⟩ := hdecides
  have hw : d.WellFormed source c := Compiler.wellFormed_of_follows hvalid hfollows hheight
  have hlonger : d.WellFormed source { c with maxDepth := limit } := hw.of_maxDepth_le hle
  have hagain := (d.decides_compile (c := { c with maxDepth := limit }) source hk .empty
    fun _ _ hfind => by cases hfind).2
  rcases hcompile : d.compile source { c with maxDepth := limit } .empty with ⟨e | w, t⟩
  · rw [hcompile] at hagain
    exact absurd hlonger hagain
  · exact ⟨w, t, rfl⟩

/-- **A workflow is compiled exactly if it is well formed**, with nothing ready beforehand; and then
it has the steps of its definition in their order, each at the position of its name, and no chain of
calls that is too long. -/
theorem Definition.compile_iff_wellFormed (d : Definition) (source : Option String)
    (fs : FileSystem) (projectDir : String) (adapters : List String) (maxDepth : Nat)
    (log : List LogLine) :
    ((∃ w t, d.compile source ⟨adapters, .ofFiles fs projectDir, maxDepth⟩ ⟨.empty, log⟩ =
        (.ok w, t)) ↔
      d.WellFormed source ⟨adapters, .ofFiles fs projectDir, maxDepth⟩) ∧
    ∀ w t, d.compile source ⟨adapters, .ofFiles fs projectDir, maxDepth⟩ ⟨.empty, log⟩ =
        (.ok w, t) →
      w.Compiled d source ⟨adapters, .ofFiles fs projectDir, maxDepth⟩ := by
  generalize hc : (⟨adapters, .ofFiles fs projectDir, maxDepth⟩ : Compiler) = c
  have hk : c.library.Keyed := hc ▸ Library.ofFiles_keyed fs projectDir
  have hempty : CompileState.Follows c ⟨.empty, log⟩ := fun _ _ hfind => by cases hfind
  have hdecides := (d.decides_compile source hk _ hempty).2
  have hsound := (d.compile_keeps_sound source c ⟨.empty, log⟩ fun _ _ hfind => by cases hfind).2
  rcases h : d.compile source c ⟨.empty, log⟩ with ⟨e | w, t⟩
  · rw [h] at hdecides
    refine ⟨⟨fun ⟨_, _, hok⟩ => ?_, fun hw => absurd hw hdecides⟩, fun _ _ hok => ?_⟩
    · cases hok
    · cases hok
  · rw [h] at hdecides hsound
    obtain ⟨hvalid, hfollows, hheight⟩ := hdecides
    have hsound : Block.Sound false w.body := hsound
    refine ⟨⟨fun _ => Compiler.wellFormed_of_follows hvalid hfollows hheight, fun _ => ⟨w, t, rfl⟩⟩,
      fun w' t' hok => ?_⟩
    cases hok
    refine ⟨hfollows, fun inLoop b hb name i => ?_, hheight⟩
    exact Block.position?_eq_some_iff (hsound.has hb).1

theorem Definition.compile_iff_wellFormed_tour :
    (∃ w t, tour.compile none bareCompiler .empty = (.ok w, t)) ∧
      tour.WellFormed none bareCompiler :=
  ⟨tour_compiles, (tour.compile_iff_wellFormed none ⟨.empty, []⟩ "/" [] 5 []).1.1 tour_compiles⟩

end Runbook
