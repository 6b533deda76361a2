import Mathlib.Data.List.Nodup
import Mathlib.Data.List.TakeWhile
import Runbook.Proofs.Workflow.Compiles

/-!
# Reported circles

When compiling a workflow ends with a circle of shared steps, that circle is there.

* `Compiler.Circle` says what a circle of keys is: it leads from a shared step back to it, through
  no shared step twice, and each of its shared steps calls the next;
* `Failure.Straight` are the failures that report no circle, and `failsOnly_compileBlock` says that
  a list of steps reports one only where a call in it does;
* `Compiler.circle_of_path` finds the circle in the way on which a key comes again, and
  `Compiler.reports_call` is the induction over the calls that may still lie in each other, with
  such a way as the invariant of the stack;
* `Definition.circles_close` is the result.

What is ready has been compiled already, so nothing is asked of the cache.
-/

namespace Runbook

open Portion

/-! ## Failures without a circle -/

/-- The failure reports no circle. -/
def Failure.Straight : Failure → Prop
  | .circularReference _ => False
  | _ => True

theorem checkNames_straight {scope : String} {names : List String} {e : Failure} :
    ∀ {seen : List String} {i : Nat}, checkNames scope seen i names = .error e → e.Straight := by
  induction names with
  | nil => intro seen i h; cases h
  | cons name rest ih =>
    intro seen i h
    rw [checkNames] at h
    split at h
    · cases h; trivial
    · split at h
      · cases h; trivial
      · exact ih h

theorem Compiler.checkStep_straight {c : Compiler} {names : List String} {inLoop : Bool}
    {step : String} {tool : Tool} {e : Failure}
    (h : c.checkStep names inLoop step tool = .error e) : e.Straight := by
  unfold checkStep at h
  split at h
  · split at h <;> cases h; trivial
  · split at h <;> cases h; trivial
  · split at h <;> cases h; trivial
  · split at h <;> cases h; trivial
  · split at h <;> cases h; trivial

theorem straight_of_forM {α : Type} {f : α → Except Failure Unit} {xs : List α} {e : Failure}
    (hf : ∀ x e, f x = .error e → e.Straight) (h : xs.forM f = .error e) : e.Straight := by
  induction xs with
  | nil => cases h
  | cons x rest ih =>
    have h : (f x >>= fun _ => rest.forM f) = .error e := h
    cases hx : f x with
    | error e' =>
      rw [hx] at h
      cases h
      exact hf x e hx
    | ok u =>
      rw [hx] at h
      exact ih h

theorem Signature.checkCall_straight {sig : Signature} {step : String} {call : SharedCall}
    {e : Failure} (h : sig.checkCall step call = .error e) : e.Straight := by
  have hinput : ∀ input e, sig.checkInput call input = .error e → e.Straight := by
    intro input e he
    unfold checkInput at he
    split at he
    · split at he <;> cases he; trivial
    · next v _ =>
      split at he
      · cases he
      · unfold InputSpec.check at he
        split at he
        · cases he
        · next schema _ =>
          cases hschema : schema.check v with
          | error reason => rw [hschema] at he; cases he; trivial
          | ok value => rw [hschema] at he; cases he
  have houtput : ∀ output e, sig.checkOutput step output = .error e → e.Straight := by
    intro output e he
    unfold checkOutput at he
    split at he <;> cases he; trivial
  unfold checkCall at h
  cases hinputs : sig.inputs.forM (sig.checkInput call) with
  | error e' =>
    rw [hinputs] at h
    cases h
    exact straight_of_forM hinput hinputs
  | ok u =>
    rw [hinputs] at h
    exact straight_of_forM houtput h

theorem Reference.ofFile_straight {fs : FileSystem} {path : String} {e : Failure}
    (h : ofFile fs path = .error e) : e.Straight := by
  unfold ofFile at h
  split at h <;> cases h; trivial

theorem Library.lookUp_straight {fs : FileSystem} {projectDir reference origin : String}
    {e : Failure} (h : lookUp fs projectDir reference origin = .error e) : e.Straight := by
  unfold lookUp at h
  dsimp only at h
  split at h
  · split at h <;> cases h; trivial
  · split at h
    · exact Reference.ofFile_straight h
    · cases h; trivial
  · split at h
    · split at h
      · exact Reference.ofFile_straight h
      · cases h; trivial
    · split at h
      · exact Reference.ofFile_straight h
      · cases h
      · cases h; trivial

theorem Library.load_straight {fs : FileSystem} {projectDir : String} {r : Reference} {e : Failure}
    (h : (ofFiles fs projectDir).load r = .error e) : e.Straight := by
  simp only [ofFiles] at h
  split at h
  · unfold loadFile at h
    split at h
    · cases h; trivial
    · split at h <;> cases h; trivial
  · split at h <;> cases h; trivial

/-! ## Lists of steps -/

/-- A part of a compilation that fails in ways only that `P` allows. -/
abbrev FailsOnly {α : Type} (P : Failure → Prop) (m : Compile α) : Prop :=
  Settles (fun _ => True) (fun _ => True) P m

section Steps

variable {c : Compiler} {call : CallCompiler} {P : Failure → Prop} {origin : String}

theorem failsOnly_check (hP : ∀ e, e.Straight → P e) {r : Except Failure Unit}
    (h : ∀ e, r = .error e → e.Straight) : FailsOnly P (liftM r : Compile Unit) :=
  settles_lift (fun _ _ => trivial) fun e he => hP e (h e he)

theorem failsOnly_checkedBlock (hP : ∀ e, e.Straight → P e) {scope : String}
    {steps : List StepDefinition} {m : Compile Block} (h : FailsOnly P m) :
    FailsOnly P (checkedBlock scope steps m) :=
  (failsOnly_check hP fun _ => checkNames_straight).bind fun _ _ => h

mutual

theorem failsOnly_compileTool (hP : ∀ e, e.Straight → P e) :
    ∀ (tool : Tool) {scope step : String},
      (∀ p ∈ toolCalls step tool, FailsOnly P (call p.1 p.2 origin)) →
        FailsOnly P (compileTool c call scope origin step tool)
  | .bash _ _, _, _, _ | .agent _, _, _, _ | .prompt _, _, _, _ | .set _ _ _, _, _, _
  | .log _ _, _, _, _ | .goto _, _, _, _ | .leave, _, _, _ | .next, _, _, _
  | .adapter _ _, _, _, _ => settles_pure trivial
  | .foreach _ steps, _, _, h | .whilst _ steps, _, _, h | .range _ steps, _, _, h
  | .retry _ steps, _, _, h =>
    (failsOnly_checkedBlock hP (failsOnly_compileSteps hP steps h)).map fun _ _ => trivial
  | .shared sharedCall, _, step, h => h (step, sharedCall) List.mem_cons_self

theorem failsOnly_compileStep (hP : ∀ e, e.Straight → P e) :
    ∀ (step : Step Tool) {scope : String} {inLoop : Bool} {names : List String},
      (∀ p ∈ stepCalls step, FailsOnly P (call p.1 p.2 origin)) →
        FailsOnly P (compileStep c call scope origin inLoop names step)
  | ⟨_, _, _, _, _, _, _, tool⟩, _, _, _, h =>
    (failsOnly_check hP fun _ => Compiler.checkStep_straight).bind fun _ _ =>
      (failsOnly_compileTool hP tool h).bind fun _ _ => settles_pure trivial

/-- Steps fail in ways that are allowed if the calls in them do. -/
theorem failsOnly_compileSteps (hP : ∀ e, e.Straight → P e) :
    ∀ (steps : List (Step Tool)) {scope : String} {inLoop : Bool} {names : List String},
      (∀ p ∈ stepsCalls steps, FailsOnly P (call p.1 p.2 origin)) →
        FailsOnly P (compileSteps c call scope origin inLoop names steps)
  | [], _, _, _, _ => settles_pure trivial
  | step :: rest, _, _, _, h =>
    (failsOnly_compileStep hP step fun p hp => h p (List.mem_append_left _ hp)).bind fun _ _ =>
      (failsOnly_compileSteps hP rest fun p hp => h p (List.mem_append_right _ hp)).bind
        fun _ _ => settles_pure trivial

end

theorem failsOnly_compileBlock (hP : ∀ e, e.Straight → P e) (scope : String)
    {steps : List StepDefinition}
    (h : ∀ p ∈ stepsCalls steps, FailsOnly P (call p.1 p.2 origin)) :
    FailsOnly P (compileBlock c call scope origin steps) :=
  failsOnly_checkedBlock hP (failsOnly_compileSteps hP steps h)

end Steps

/-! ## Circles -/

/-- The shared step that a key stands for: a built-in one, or that of the file of this path. -/
def Reference.ofKey (key : String) : Reference :=
  match Library.after? "builtin:".toList key.toList with
  | some name => ⟨key, .builtin (String.ofList name)⟩
  | none => ⟨key, .file key⟩

theorem Library.after?_append (cs rest : List Char) : after? cs (cs ++ rest) = some rest := by
  induction cs with
  | nil => rfl
  | cons c cs ih => rw [List.cons_append, after?, if_pos rfl, ih]

theorem Reference.Shape.eq_ofKey {r : Reference} (h : r.Shape) : r = .ofKey r.key := by
  cases h with
  | builtin name =>
    have hafter : Library.after? "builtin:".toList ("builtin:" ++ name).toList =
        some name.toList := by
      rw [String.toList_append]
      exact Library.after?_append _ _
    simp only [ofKey, hafter, String.ofList_toList]
  | file place =>
    have hafter : Library.after? "builtin:".toList (FileSystem.placeText place).toList = none := by
      simp [FileSystem.placeText, Library.after?]
    simp only [ofKey, hafter]

namespace Compiler

/-- Keys of shared steps that make a circle. -/
structure Circle (c : Compiler) (chain : List String) : Prop where
  /-- There are at least two. -/
  two_le : 2 ≤ chain.length
  /-- The first one comes again at the end. -/
  closed : chain.head? = chain.getLast?
  /-- Up to then no key comes twice. -/
  distinct : chain.dropLast.Nodup
  /-- The shared step of each key can be read, and one of the calls in it, be it inside loops, leads
  from its own directory to the shared step of the next key. -/
  calls : chain.IsChain fun key next => c.Calls (.ofKey key) (.ofKey next)

/-- The failure reports no circle, or one that is there. -/
def Reports (c : Compiler) : Failure → Prop
  | .circularReference chain => c.Circle chain
  | _ => True

theorem reports_of_straight {c : Compiler} (e : Failure) (h : e.Straight) : c.Reports e := by
  cases e with
  | circularReference chain => exact h.elim
  | _ => trivial

/-- Where the way to a bundle has gone through the shared step that is called there, it has gone
round. -/
theorem circle_of_path {c : Compiler} (hshape : ∀ r, c.library.Resolves r → r = .ofKey r.key)
    {root b : Bundle} {rs : List Reference} (hpath : c.Path root rs b)
    (hnodup : (rs.map (·.key)).Nodup) {r : Reference} (hl : c.Leads b r)
    (hmem : r.key ∈ rs.map (·.key)) :
    c.Circle ((rs.map (·.key)).dropWhile (· != r.key) ++ [r.key]) := by
  have hround : ∃ more, (rs.map (·.key)).dropWhile (· != r.key) = r.key :: more := by
    cases hdrop : (rs.map (·.key)).dropWhile (· != r.key) with
    | nil =>
      have hall := List.dropWhile_eq_nil_iff.1 hdrop r.key hmem
      simp at hall
    | cons key more =>
      have hkey := List.head?_dropWhile_not (· != r.key) (rs.map (·.key))
      rw [hdrop] at hkey
      simp only [List.head?_cons, bne_eq_false_iff_eq] at hkey
      exact ⟨more, by rw [hkey]⟩
  obtain ⟨more, hmore⟩ := hround
  -- each shared step on the way is the one that its key stands for
  have hall : (rs.map (·.key) ++ [r.key]).map Reference.ofKey = rs ++ [r] := by
    have hkeys : rs.map (·.key) ++ [r.key] = (rs ++ [r]).map (·.key) := by simp
    rw [hkeys, List.map_map]
    refine (List.map_congr_left fun r' hr' => ?_).trans (List.map_id _)
    refine (hshape r' ?_).symm
    rcases List.mem_append.1 hr' with hr' | hr'
    · exact hpath.resolves hr'
    · obtain ⟨p, -, hresolve⟩ := hl
      rw [List.mem_singleton.1 hr']
      exact ⟨_, _, hresolve⟩
  have hchain : (rs.map (·.key) ++ [r.key]).IsChain
      fun key next => c.Calls (.ofKey key) (.ofKey next) := by
    have hcalls := (hpath.chain hl).2
    rw [← hall, List.isChain_map] at hcalls
    exact hcalls
  refine ⟨?_, ?_, ?_, ?_⟩
  · rw [hmore]
    simp
  · rw [hmore, List.getLast?_concat]
    rfl
  · rw [List.dropLast_concat]
    exact hnodup.sublist (List.dropWhile_sublist _)
  · refine hchain.suffix ?_
    obtain ⟨front, hfront⟩ := List.dropWhile_suffix (· != r.key) (l := rs.map (·.key))
    refine ⟨front, ?_⟩
    rw [← List.append_assoc, hfront]

/-- A call passes the check for circles if its shared step is new on the way, and else there is
one. -/
theorem reports_checkCircle {c : Compiler}
    (hshape : ∀ r, c.library.Resolves r → r = .ofKey r.key) {root b : Bundle}
    {rs : List Reference} (hpath : c.Path root rs b) (hnodup : (rs.map (·.key)).Nodup)
    {r : Reference} (hl : c.Leads b r) :
    Settles (fun _ => True) (fun _ => r.key ∉ rs.map (·.key)) c.Reports
      (liftM (checkCircle (rs.map (·.key)) r.key) : Compile Unit) := by
  refine settles_lift (fun _ hok => checkCircle_eq_ok.1 hok) fun e he => ?_
  unfold checkCircle at he
  split at he
  · next hmem =>
    cases he
    exact circle_of_path hshape hpath hnodup hl (List.contains_iff_mem.1 hmem)
  · cases he

theorem reports_sharedStep {c : Compiler} (hload : ∀ r e, c.library.load r = .error e → e.Straight)
    {call : CallCompiler} {r : Reference}
    (h : ∀ d, c.library.load r = .ok d → ∀ p ∈ stepsCalls d.steps,
      FailsOnly c.Reports (call p.1 p.2 (c.bundle r d).origin)) :
    FailsOnly c.Reports (c.sharedStep call r) := by
  refine Settles.bind (R := fun d => c.library.load r = .ok d)
    (settles_lift (fun _ hd => hd) fun e he => reports_of_straight e (hload r e he)) fun d hd => ?_
  refine (failsOnly_compileBlock reports_of_straight _ (h d hd)).bind fun body _ => ?_
  exact (settles_modify fun _ _ => trivial).bind fun _ _ => settles_pure trivial

theorem reports_callee {c : Compiler} (hload : ∀ r e, c.library.load r = .error e → e.Straight)
    {call : CallCompiler} (depth : Nat) {r : Reference}
    (h : ∀ d, c.library.load r = .ok d → ∀ p ∈ stepsCalls d.steps,
      FailsOnly c.Reports (call p.1 p.2 (c.bundle r d).origin)) :
    FailsOnly c.Reports (c.callee call depth r) := by
  intro s hs
  have hget : (get : Compile CompileState) s = (.ok s, s) := rfl
  rw [Ends, callee, bind_ok hget]
  cases hfind : s.cache.find? r.key with
  | none => exact reports_sharedStep hload h s hs
  | some ready =>
    refine Settles.bind (I := fun _ => True) (R := fun _ => True)
      (settles_lift (fun _ _ => trivial) fun e he => ?_) (fun _ _ => settles_pure trivial) s hs
    unfold checkDepth at he
    split at he <;> cases he; trivial

/-- **A call on the way from a bundle** reports a circle only if it is there.  The keys on the stack
are those of the way, and none of them comes twice. -/
theorem reports_call {c : Compiler} (hshape : ∀ r, c.library.Resolves r → r = .ofKey r.key)
    (hresolve : ∀ reference origin e, c.library.resolve reference origin = .error e → e.Straight)
    (hload : ∀ r e, c.library.load r = .error e → e.Straight) {root : Bundle} (budget : Nat) :
    ∀ {rs : List Reference} {b : Bundle}, c.Path root rs b → (rs.map (·.key)).Nodup →
      ∀ p ∈ stepsCalls b.steps,
        FailsOnly c.Reports (c.call budget (rs.map (·.key)) p.1 p.2 b.origin) := by
  have hresolved : ∀ (reference origin : String), Settles (fun _ => True)
      (fun r => c.library.resolve reference origin = .ok r) c.Reports
      (liftM (c.library.resolve reference origin) : Compile Reference) := fun reference origin =>
    settles_lift (fun _ hr => hr) fun e he => reports_of_straight e (hresolve reference origin e he)
  induction budget with
  | zero =>
    intro rs b hpath hnodup p hp
    refine (hresolved p.2.uses b.origin).bind fun r hr => ?_
    exact (reports_checkCircle hshape hpath hnodup ⟨p, hp, hr⟩).bind fun _ _ =>
      settles_throw trivial
  | succ budget ih =>
    intro rs b hpath hnodup p hp
    refine (hresolved p.2.uses b.origin).bind fun r hr => ?_
    refine (reports_checkCircle hshape hpath hnodup ⟨p, hp, hr⟩).bind fun _ hnew => ?_
    refine (reports_callee hload _ fun d hd q hq => ?_).bind fun callee _ => ?_
    · have hnodup' : ((rs ++ [r]).map (·.key)).Nodup := by
        rw [List.map_append, List.map_singleton, ← List.concat_eq_append]
        exact List.Nodup.concat hnew hnodup
      have hcall := ih (hpath.snoc ⟨p, hp, hr⟩ hd) hnodup' q hq
      rwa [List.map_append, List.map_singleton] at hcall
    · refine Settles.bind (settles_lift (R := fun _ => True) (fun _ _ => trivial) fun e he => ?_)
        fun _ _ => settles_pure trivial
      exact reports_of_straight e (Signature.checkCall_straight he)

end Compiler

/-- **A circle that is reported is there.**  If compiling a workflow ends with a circle, whatever
was compiled before and however deep shared steps may call each other, then its keys make one: at
least two, the last one the first again, none of the others twice, and each shared step can be read
and calls the next one. -/
theorem Definition.circles_close (d : Definition) (source : Option String) (fs : FileSystem)
    (projectDir : String) (adapters : List String) (maxDepth : Nat) (s : CompileState)
    {chain : List String}
    (h : (d.compile source ⟨adapters, .ofFiles fs projectDir, maxDepth⟩ s).1 =
      .error (.circularReference chain)) :
    Compiler.Circle ⟨adapters, .ofFiles fs projectDir, maxDepth⟩ chain := by
  generalize hc : (⟨adapters, .ofFiles fs projectDir, maxDepth⟩ : Compiler) = c at h ⊢
  have hshape : ∀ r, c.library.Resolves r → r = .ofKey r.key := by
    subst hc
    exact fun r hr => hr.shape.eq_ofKey
  have hresolve : ∀ reference origin e, c.library.resolve reference origin = .error e →
      e.Straight := by
    subst hc
    exact fun _ _ _ he => Library.lookUp_straight he
  have hload : ∀ r e, c.library.load r = .error e → e.Straight := by
    subst hc
    exact fun _ _ he => Library.load_straight he
  have hcalls := Compiler.reports_call hshape hresolve hload c.maxDepth
    (.nil : c.Path (d.bundle source c) [] _) List.nodup_nil
  have hcompile : FailsOnly c.Reports (d.compile source c) := by
    refine (failsOnly_compileBlock Compiler.reports_of_straight _ hcalls).bind fun body _ => ?_
    exact (settles_modify fun _ _ => trivial).bind fun _ _ => settles_pure trivial
  have hends := (hcompile s trivial).2
  rw [h] at hends
  exact hends

/-- A shared step that calls another in a loop, by its path. -/
def askingText : String :=
  "name: ask\nsteps:\n- name: again\n  tool: retry\n  steps:\n" ++
    "  - name: a\n    tool: shared\n    uses: ./tell.yaml"

/-- A shared step that calls the first one, by its name. -/
def tellingText : String := "name: tell\nsteps:\n- name: b\n  tool: shared\n  uses: ask"

/-- A project with both. -/
def circlingFiles : FileSystem :=
  ⟨.directory [(".cadence", .directory [("shared", .directory
    [("ask.yaml", .file (Utf8.encode askingText) false),
      ("tell.yaml", .file (Utf8.encode tellingText) false)])])], []⟩

/-- A workflow that calls one of them. -/
def circling : Definition where
  name := "circling"
  description := none
  version := "1"
  vars := .empty
  defaults := {}
  steps := [Builtin.plainStep "begin" (.shared ⟨"project:tell", .empty, .empty⟩)]

theorem Definition.circles_close_circling :
    (circling.compile none ⟨[], .ofFiles circlingFiles "/", 5⟩ .empty).1 =
        .error (.circularReference ["/.cadence/shared/tell.yaml", "/.cadence/shared/ask.yaml",
          "/.cadence/shared/tell.yaml"]) ∧
      Compiler.Circle ⟨[], .ofFiles circlingFiles "/", 5⟩ ["/.cadence/shared/tell.yaml",
        "/.cadence/shared/ask.yaml", "/.cadence/shared/tell.yaml"] := by
  have hcheck : (circling.compile none ⟨[], .ofFiles circlingFiles "/", 5⟩ .empty).1.map
      (fun _ => ()) = .error (.circularReference ["/.cadence/shared/tell.yaml",
        "/.cadence/shared/ask.yaml", "/.cadence/shared/tell.yaml"]) := by
    decide +kernel
  have hcompile : (circling.compile none ⟨[], .ofFiles circlingFiles "/", 5⟩ .empty).1 =
      .error (.circularReference ["/.cadence/shared/tell.yaml", "/.cadence/shared/ask.yaml",
        "/.cadence/shared/tell.yaml"]) := by
    cases hresult : (circling.compile none ⟨[], .ofFiles circlingFiles "/", 5⟩ .empty).1 with
    | error failure =>
      rw [hresult] at hcheck
      rw [Except.error.inj hcheck]
    | ok w =>
      rw [hresult] at hcheck
      cases hcheck
  exact ⟨hcompile, circling.circles_close none circlingFiles "/" [] 5 .empty hcompile⟩

end Runbook
