import Runbook.Proofs.Workflow.Compiles
import Runbook.Proofs.Workflow.Recompiled

/-!
# The cache does not show

A shared step that is ready is taken as it is, with one look at its height in place of all that its
compilation would check.  That makes no difference: a workflow comes to the same whatever was
compiled before it.

* `Compiler.settles_call` says what a call comes to where there is a compiled shared step for it,
  whether or not it is ready: to that one, or the chain of calls is too long;
* `Compiler.indifferent_call` is the induction over the calls that may still lie in each other;
* `Definition.compile_ignores_cache` is the result, with what is ready in the states that compilations
  leave.
-/

namespace Runbook

open Portion

/-- Failures that are the same but for the length of a chain of calls that is too long. -/
def Failure.SameKind (e e' : Failure) : Prop :=
  e = e' ∨ ∃ depth depth' max, e = .depthExceeded depth max ∧ e' = .depthExceeded depth' max

theorem Failure.SameKind.refl (e : Failure) : e.SameKind e := .inl rfl

namespace Compiler

variable {c : Compiler} {root b : Bundle} {rs : List Reference}

/-! ## Calls of compiled shared steps -/

/-- The failure of a chain of `length` calls that is too long. -/
def TooLong (c : Compiler) (length : Nat) (e : Failure) : Prop :=
  (∃ depth, e = .depthExceeded depth c.maxDepth) ∧ c.maxDepth < length

theorem TooLong.mono {m n : Nat} (hmn : m ≤ n) {e : Failure} (h : c.TooLong m e) : c.TooLong n e :=
  ⟨h.1, h.2.trans_le hmn⟩

/-- Below `depth` shared steps each call of a bundle that can be compiled comes to what may stand in
its place, unless that makes a chain that is too long. -/
def CallsSettle (c : Compiler) (call : CallCompiler) (depth : Nat) (b : Bundle) : Prop :=
  ∀ p ∈ stepsCalls b.steps, ∀ n action, c.CallFollows n b.origin p.1 p.2 action →
    Settles (CompileState.Follows c) (· = action)
      (c.TooLong (depth + Block.actionHeight action)) (call p.1 p.2 b.origin)

theorem settles_checkDepth {I : CompileState → Prop} (depth : Nat) :
    Settles I (fun _ => True) (c.TooLong depth) (liftM (c.checkDepth depth) : Compile Unit) := by
  refine settles_lift (fun _ _ => trivial) fun e he => ?_
  unfold checkDepth at he
  split at he
  · next hlt =>
    cases he
    exact ⟨⟨depth, rfl⟩, hlt⟩
  · cases he

theorem settles_sharedStep {call : CallCompiler} {depth n : Nat} {r : Reference}
    {callee : CompiledShared Action} (hr : c.library.Resolves r) (hcallee : c.CalleeFollows n r callee)
    (h : ∀ d, c.library.load r = .ok d → c.CallsSettle call (depth + 1) (c.bundle r d)) :
    Settles (CompileState.Follows c) (· = callee) (c.TooLong (depth + callee.height))
      (c.sharedStep call r) := by
  have hready := hcallee.at_height
  cases n with
  | zero => exact hcallee.elim
  | succ n =>
    obtain ⟨d, body, hload, hvalid, hbody, rfl⟩ := calleeFollows_succ.1 hcallee
    refine Settles.bind (R := (· = d)) (settles_lift (fun d' hd' => ?_) fun e he => ?_) ?_
    · rw [hload] at hd'
      exact (Except.ok.inj hd').symm
    · rw [hload] at he
      cases he
    rintro _ rfl
    refine (settles_compileBlock _ hvalid hbody fun p hp action hf hheight => ?_).bind ?_
    · refine (h _ hload p hp n action hf).weaken (fun _ ha => ha) fun e he => he.mono ?_
      show depth + 1 + Block.actionHeight action ≤ depth + (Block.sharedHeight body + 1)
      omega
    rintro _ rfl
    exact fun s hs => ⟨follows_keep hs hr hready rfl, rfl⟩

/-- A shared step that is ready is the one that it would be compiled to. -/
theorem settles_callee (hk : c.library.Keyed) {call : CallCompiler} {depth n : Nat} {r : Reference}
    {callee : CompiledShared Action} (hr : c.library.Resolves r) (hcallee : c.CalleeFollows n r callee)
    (h : ∀ d, c.library.load r = .ok d → c.CallsSettle call (depth + 1) (c.bundle r d)) :
    Settles (CompileState.Follows c) (· = callee) (c.TooLong (depth + callee.height))
      (c.callee call depth r) := by
  intro s hs
  have hget : (get : Compile CompileState) s = (.ok s, s) := rfl
  rw [Ends, Compiler.callee, bind_ok hget]
  cases hfind : s.cache.find? r.key with
  | none => exact settles_sharedStep hr hcallee h s hs
  | some ready =>
    obtain ⟨r', hr', hkey, hready⟩ := hs _ _ hfind
    obtain rfl := hk r' r hr' hr hkey
    obtain rfl := hready.unique hcallee
    refine Settles.bind (settles_checkDepth _) ?_ s hs
    exact fun _ _ => settles_pure rfl

/-- No shared step on the way is called again, if the one that is called can be compiled. -/
theorem CalleeFollows.not_mem (hk : c.library.Keyed) {n : Nat} {r : Reference}
    {callee : CompiledShared Action} (h : c.CalleeFollows n r callee) (hpath : c.Path root rs b)
    (hl : c.Leads b r) : r.key ∉ rs.map (·.key) := by
  intro hmem
  obtain ⟨p, hp, hr⟩ := hl
  obtain ⟨r', hr', hkey⟩ := List.mem_map.1 hmem
  obtain rfl := hk r' r (hpath.resolves hr') ⟨_, _, hr⟩ hkey
  exact not_transGen_self callee.height h le_rfl (hpath.transGen ⟨p, hp, hr⟩ hr')

theorem settles_reference (hk : c.library.Keyed) (hpath : c.Path root rs b)
    {p : String × SharedCall} (hp : p ∈ stepsCalls b.steps) {r : Reference}
    (hr : c.library.resolve p.2.uses b.origin = .ok r) {n : Nat} {callee : CompiledShared Action}
    (hcallee : c.CalleeFollows n r callee) {I : CompileState → Prop} {R : Action → Prop}
    {P : Failure → Prop} {m : Reference → Compile Action} (hm : Settles I R P (m r)) :
    Settles I R P (do
      let r ← c.library.resolve p.2.uses b.origin
      checkCircle (rs.map (·.key)) r.key
      m r : Compile Action) := by
  rw [hr]
  have hcircle := checkCircle_eq_ok.2 (hcallee.not_mem hk hpath ⟨p, hp, hr⟩)
  exact (settles_check hcircle).bind fun _ _ => hm

/-- **A call on the way from a bundle** that can be compiled comes to what may stand in its place,
unless that makes a chain that is too long. -/
theorem settles_call (hk : c.library.Keyed) (budget : Nat) :
    ∀ {rs : List Reference} {b : Bundle}, c.Path root rs b → rs.length + budget = c.maxDepth →
      c.CallsSettle (c.call budget (rs.map (·.key))) rs.length b := by
  induction budget with
  | zero =>
    rintro rs b hpath hbudget p hp n _ ⟨r, callee, hr, hcallee, -, rfl⟩
    refine settles_reference hk hpath hp hr hcallee (settles_throw ⟨⟨_, rfl⟩, ?_⟩)
    have hheight : Block.actionHeight (.shared callee p.2.inputs p.2.outputs) = callee.height := rfl
    have := hcallee.height_eq.1
    omega
  | succ budget ih =>
    rintro rs b hpath hbudget p hp n _ ⟨r, callee, hr, hcallee, hcheck, rfl⟩
    refine settles_reference hk hpath hp hr hcallee ?_
    rw [List.length_map]
    refine (settles_callee hk ⟨_, _, hr⟩ hcallee fun d hload => ?_).bind ?_
    · have hcalls := ih (hpath.snoc ⟨p, hp, hr⟩ hload) (by simp; omega)
      rwa [List.map_append, List.length_append] at hcalls
    rintro _ rfl
    exact (settles_check hcheck).bind fun _ _ => settles_pure rfl

/-! ## All calls -/

theorem indifferent_sharedStep {call : CallCompiler} {depth : Nat} {r : Reference}
    (hr : c.library.Resolves r) (hdepth : depth < c.maxDepth)
    (hdone : ∀ d, c.library.load r = .ok d → ∀ p ∈ stepsCalls d.steps,
      Decides (CompileState.Follows c)
        (c.CallDone (depth + 1) (c.bundle r d).origin p.1 p.2) (c.WellFormed root)
        (call p.1 p.2 (c.bundle r d).origin))
    (h : ∀ d, c.library.load r = .ok d → ∀ p ∈ stepsCalls d.steps,
      Indifferent (CompileState.Follows c) Failure.SameKind
        (call p.1 p.2 (c.bundle r d).origin)) :
    Indifferent (CompileState.Follows c) Failure.SameKind (c.sharedStep call r) := by
  refine (indifferent_lift .refl _).bind_settled (R := fun d => c.library.load r = .ok d)
    (settles_lift (fun _ hd => hd) (P := fun _ => True) fun _ _ => trivial) fun d hload => ?_
  refine (indifferent_compileBlock .refl _ (h d hload)).bind_settled
    (decides_compileBlock _ (hdone d hload)) fun body hbody => ?_
  have hcallee := (calleeDone_of_callDone hload hdepth hbody.1 hbody.2).1
  refine Indifferent.bind (indifferent_modify fun s hs => ?_) fun _ => indifferent_pure _
  exact follows_keep hs hr hcallee rfl

/-- A shared step that can be compiled ends alike wherever it is ready, one that cannot is nowhere
ready. -/
theorem indifferent_callee (hk : c.library.Keyed) {call : CallCompiler} {r : Reference}
    (hpath : c.Path root rs b) (hl : c.Leads b r) (hdepth : rs.length < c.maxDepth)
    (hdone : ∀ d, c.library.load r = .ok d → ∀ p ∈ stepsCalls d.steps,
      Decides (CompileState.Follows c)
        (c.CallDone (rs.length + 1) (c.bundle r d).origin p.1 p.2) (c.WellFormed root)
        (call p.1 p.2 (c.bundle r d).origin))
    (hsettle : ∀ d, c.library.load r = .ok d →
      c.CallsSettle call (rs.length + 1) (c.bundle r d))
    (h : ∀ d, c.library.load r = .ok d → ∀ p ∈ stepsCalls d.steps,
      Indifferent (CompileState.Follows c) Failure.SameKind
        (call p.1 p.2 (c.bundle r d).origin)) :
    Indifferent (CompileState.Follows c) Failure.SameKind (c.callee call rs.length r) := by
  have hr : c.library.Resolves r := by
    obtain ⟨p, -, hr⟩ := hl
    exact ⟨_, _, hr⟩
  by_cases hcallee : ∃ n callee, c.CalleeFollows n r callee
  · obtain ⟨n, callee, hcallee⟩ := hcallee
    have hsettles := (settles_callee hk hr hcallee hsettle).and
      (decides_callee hk hpath hl hdepth hdone)
    refine Settles.indifferent (a := callee) (F := rs.length + callee.height ≤ c.maxDepth)
      (P := fun e => ∃ depth, e = .depthExceeded depth c.maxDepth)
      (hsettles.weaken ?_ ?_) ?_
    · rintro _ ⟨rfl, hdone⟩
      exact ⟨rfl, hdone.2⟩
    · rintro e ⟨hlong, -⟩
      exact ⟨hlong.1, Nat.not_le.2 hlong.2⟩
    · rintro _ _ ⟨depth, rfl⟩ ⟨depth', rfl⟩
      exact .inr ⟨depth, depth', c.maxDepth, rfl, rfl⟩
  · intro s s' hs hs'
    have hnone : ∀ t : CompileState, t.Follows c →
        c.callee call rs.length r t = c.sharedStep call r t := by
      intro t ht
      have hget : (get : Compile CompileState) t = (.ok t, t) := rfl
      rw [Compiler.callee, bind_ok hget]
      cases hfind : t.cache.find? r.key with
      | none => rfl
      | some ready =>
        obtain ⟨r', hr', hkey, hready⟩ := ht _ _ hfind
        obtain rfl := hk r' r hr' hr hkey
        exact (hcallee ⟨_, _, hready⟩).elim
    rw [hnone s hs, hnone s' hs']
    exact indifferent_sharedStep hr hdepth hdone h s s' hs hs'

/-- **A call on the way from a bundle** ends alike whatever is ready. -/
theorem indifferent_call (hk : c.library.Keyed) (budget : Nat) :
    ∀ {rs : List Reference} {b : Bundle}, c.Path root rs b → rs.length + budget = c.maxDepth →
      ∀ p ∈ stepsCalls b.steps,
        Indifferent (CompileState.Follows c) Failure.SameKind
          (c.call budget (rs.map (·.key)) p.1 p.2 b.origin) := by
  induction budget with
  | zero =>
    intro rs b _ _ p _
    refine Indifferent.bind (indifferent_lift .refl _) fun r => ?_
    exact (indifferent_lift .refl _).bind fun _ => indifferent_throw (.refl _)
  | succ budget ih =>
    intro rs b hpath hbudget p hp
    refine Indifferent.bind_settled (R := fun r => c.library.resolve p.2.uses b.origin = .ok r)
      (indifferent_lift .refl _)
      (settles_lift (fun _ hr => hr) (P := fun _ => True) fun _ _ => trivial) fun r hr => ?_
    refine (indifferent_lift .refl _).bind fun _ => ?_
    have hl : c.Leads b r := ⟨p, hp, hr⟩
    -- the calls in the shared step have a smaller budget, and the way to them is one call longer
    have hlength : (rs ++ [r]).length + budget = c.maxDepth := by simp; omega
    rw [List.length_map]
    refine Indifferent.bind (indifferent_callee hk hpath hl (by omega) (fun d hload => ?_)
      (fun d hload => ?_) fun d hload => ?_) fun callee => ?_
    · have hcalls := decides_call hk budget (hpath.snoc hl hload) hlength
      rwa [List.map_append, List.length_append] at hcalls
    · have hcalls := settles_call hk budget (hpath.snoc hl hload) hlength
      rwa [List.map_append, List.length_append] at hcalls
    · have hcalls := ih (hpath.snoc hl hload) hlength
      rwa [List.map_append] at hcalls
    · exact (indifferent_lift .refl _).bind fun _ => indifferent_pure _

end Compiler

/-! ## Workflows -/

/-- The states that compilations by one compiler can leave, of whatever workflows, and whatever
their end was. -/
inductive CompileState.ReachedBy (c : Compiler) : CompileState → Prop where
  /-- Before the first compilation. -/
  | empty (log : List LogLine) : ReachedBy c ⟨.empty, log⟩
  /-- After one more. -/
  | compile {s : CompileState} (d : Definition) (source : Option String) (h : ReachedBy c s) :
    ReachedBy c (d.compile source c s).2

theorem CompileState.ReachedBy.follows {c : Compiler} (hk : c.library.Keyed) {s : CompileState}
    (h : s.ReachedBy c) : s.Follows c := by
  induction h with
  | empty log => exact fun _ _ hfind => by cases hfind
  | compile d source _ ih => exact (d.decides_compile source hk _ ih).1

/-- Compiling a workflow ends alike whatever is ready. -/
theorem Definition.indifferent_compile (d : Definition) (source : Option String) {c : Compiler}
    (hk : c.library.Keyed) :
    Indifferent (CompileState.Follows c) Failure.SameKind (d.compile source c) := by
  have hcalls := Compiler.indifferent_call hk c.maxDepth
    (.nil : c.Path (d.bundle source c) [] _) (Nat.zero_add _)
  refine (indifferent_compileBlock .refl _ hcalls).bind fun body => ?_
  refine Indifferent.bind (indifferent_modify fun s hs => ?_) fun _ => indifferent_pure _
  exact hs

/-- What a shared step that is ready has to be, given what it is the shared step of. -/
structure Compiler.Ready (c : Compiler) (r : Reference) (callee : CompiledShared Action) : Prop where
  /-- It has the steps of the shared step in their order, and so have the shared steps in it. -/
  follows : c.CalleeFollows callee.height r callee
  /-- It is one higher than what it calls. -/
  height : callee.height = Block.sharedHeight callee.body + 1
  /-- No chain of calls that begins with it is longer than it is high. -/
  longest : ∀ rs, (r :: rs).IsChain c.Calls → (r :: rs).length ≤ callee.height
  /-- Such a chain is as long. -/
  attained : ∃ rs, (r :: rs).IsChain c.Calls ∧ (r :: rs).length = callee.height
  /-- None of the shared steps that it leads to leads back to itself. -/
  acyclic : ∀ r', Relation.ReflTransGen c.Calls r r' → ¬ Relation.TransGen c.Calls r' r'

theorem Compiler.CalleeFollows.ready {c : Compiler} {n : Nat} {r : Reference}
    {callee : CompiledShared Action} (h : c.CalleeFollows n r callee) : c.Ready r callee where
  follows := h.at_height
  height := h.height_eq.1
  longest _ hrs := h.length_lt hrs
  attained := h.exists_chain
  acyclic r' hr' := by
    obtain rfl | hr' := Relation.reflTransGen_iff_eq_or_transGen.1 hr'
    · exact not_transGen_self callee.height h le_rfl
    · obtain ⟨n', callee', hcallee', -⟩ := h.of_transGen hr'
      exact not_transGen_self callee'.height hcallee' le_rfl

/-- **What is compiled does not depend on what was compiled before.**  In a state that compilations
leave, successful or not, every workflow comes to the same as with nothing ready, or fails with the
same failure but for the length of a chain that is too long; and what is ready there is complete, as
high as the longest chain of calls that it begins, and leads to no cycle. -/
theorem Definition.compile_ignores_cache (fs : FileSystem) (projectDir : String)
    (adapters : List String) (maxDepth : Nat) {s : CompileState}
    (hs : s.ReachedBy ⟨adapters, .ofFiles fs projectDir, maxDepth⟩) :
    (∀ (d : Definition) (source : Option String) (log : List LogLine),
      Alike Failure.SameKind (d.compile source ⟨adapters, .ofFiles fs projectDir, maxDepth⟩ s).1
        (d.compile source ⟨adapters, .ofFiles fs projectDir, maxDepth⟩ ⟨.empty, log⟩).1) ∧
    ∀ key callee, s.cache.find? key = some callee →
      ∃ r, (Library.ofFiles fs projectDir).Resolves r ∧ r.key = key ∧
        Compiler.Ready ⟨adapters, .ofFiles fs projectDir, maxDepth⟩ r callee := by
  have hfollows := hs.follows (Library.ofFiles_keyed fs projectDir)
  refine ⟨fun d source log => ?_, fun key callee hfind => ?_⟩
  · have hempty := (CompileState.ReachedBy.empty log).follows
      (c := ⟨adapters, .ofFiles fs projectDir, maxDepth⟩) (Library.ofFiles_keyed fs projectDir)
    exact (d.indifferent_compile source (Library.ofFiles_keyed fs projectDir) s _ hfollows
      hempty).2.2
  · obtain ⟨r, hr, hkey, hcallee⟩ := hfollows key callee hfind
    exact ⟨r, hr, hkey, hcallee.ready⟩

/-- A call of a built-in shared step, and after it a jump that leads nowhere. -/
def stumble : Definition where
  name := "stumble"
  description := none
  version := "1"
  vars := .empty
  defaults := {}
  steps :=
    [Builtin.plainStep "say"
        (.shared ⟨"builtin:announce", .ofList [("message", .bool true)], .empty⟩),
      Builtin.plainStep "over" (.goto "nowhere")]

theorem Definition.compile_ignores_cache_stumble :
    (stumble.compile none bareCompiler .empty).1 =
        .error (.unknownJumpTarget "over" "nowhere") ∧
      (stumble.compile none bareCompiler .empty).2.cache.contains "builtin:announce" = true ∧
      Alike Failure.SameKind
        (tour.compile none bareCompiler (stumble.compile none bareCompiler .empty).2).1
        (tour.compile none bareCompiler .empty).1 := by
  refine ⟨rfl, rfl, ?_⟩
  have hs : (stumble.compile none bareCompiler .empty).2.ReachedBy bareCompiler :=
    .compile stumble none (.empty [])
  exact (Definition.compile_ignores_cache ⟨.empty, []⟩ "/" [] 5 hs).1 tour none []

end Runbook
