import Runbook.Proofs.KeyMap
import Runbook.Proofs.Run.Frames
import Runbook.Proofs.Run.OwnSteps

/-!
# What steps do to one variable

What can happen to a variable while steps run of which an account is kept.

* `Step.writtenVars` are the variables that a step binds when it succeeds, its own ones in a loop
  apart, and `Overwritten` says that steps gave a variable a value themselves;
* `bindingView` is what is seen of a variable beside the account; `reads_bindingView` and
  `readsTools_bindingView` say that what binds no variables leaves it alone;
* `LeavesVar` says what a step may do to a variable that has no steps inside, and `leavesVar_act`
  that every such step does no more.
-/

namespace Runbook

open Portion

/-- The variables that a step binds to its output or to outputs of its call when it succeeds. -/
def Step.writtenVars (step : Step Action) : List String :=
  step.outputVar.toList ++
    match step.tool with
    | .set var _ _ => [var]
    | .shared callee _ outputs =>
      if outputs.size = 0 then callee.signature.outputs.keys else outputs.keys
    | .bash _ _ | .agent _ | .prompt _ | .log _ _ | .goto _ | .leave | .next | .foreach _ _
    | .whilst _ _ | .range _ _ | .retry _ _ | .adapter _ _ => []

/-- Own steps gave a variable a value: one that binds it succeeded, or an adapter changed it.  What
is done to the variables of a loop inside of it is undone at its end and does not count. -/
inductive Overwritten (name : String) : OwnHistory → Prop where
  | written {value step around vars before} (hname : name ∈ step.writtenVars)
    (hout : name ∉ around) :
    Overwritten name (⟨.ended (.ok value), step, around, vars⟩ :: before)
  | changed {result step around vars vars' before adapter params}
    (htool : step.tool = .adapter adapter params) (hout : name ∉ around)
    (hne : vars'.find? name ≠ vars.find? name) :
    Overwritten name (⟨.ended result, step, around, vars'⟩ ::
      ⟨.dispatched, step, around, vars⟩ :: before)
  | later {moment before} (h : Overwritten name before) : Overwritten name (moment :: before)

/-- Whether an action has no steps inside. -/
def Action.isPlain : Action → Bool
  | .foreach _ _ | .whilst _ _ | .range _ _ | .retry _ _ | .shared _ _ _ => false
  | .bash _ _ | .agent _ | .prompt _ | .set _ _ _ | .log _ _ | .goto _ | .leave | .next
  | .adapter _ _ => true

namespace Run

variable {W α : Type} {name : String}

/-! ## What is seen of a variable -/

/-- What is seen of a variable: its value, and the account of the steps. -/
def bindingView (name : String) (s : RunState (W × OwnHistory)) : Option Value × OwnHistory :=
  (s.progress.vars.find? name, s.world.2)

theorem bindingView_eq_iff {s t : RunState (W × OwnHistory)} :
    bindingView name t = bindingView name s ↔
      t.progress.vars.find? name = s.progress.vars.find? name ∧ t.world.2 = s.world.2 := by
  rw [bindingView, bindingView, Prod.mk.injEq]

theorem overlooks_bindingView (name : String) :
    OverlooksTools Prod.snd (bindingView name : RunState (W × OwnHistory) → _) where
  events _ _ := rfl
  world _ _ _ h := by rw [bindingView, h]; rfl

theorem reads_bindingView (name : String) :
    ComposesReads (.ofProperty fun α (m : Run (W × OwnHistory) α) =>
      Steady (bindingView name) (fun _ => True) m) :=
  (overlooks_bindingView name).composesReads fun _ _ => trivial

theorem readsTools_bindingView (env : Setting W) (name : String) :
    ReadsTools (env.paired OwnHistory) (env.paired OwnHistory)
      (.ofProperty fun α (m : Run (W × OwnHistory) α) =>
        Steady (bindingView name) (fun _ => True) m) :=
  (overlooks_bindingView name).readsTools (fun _ _ => trivial) (keeps_beside env.tools OwnHistory)
    (.inl trivial)

theorem steady_steer {f : Progress → Progress} (hv : ∀ p, (f p).vars = p.vars) :
    Steady (bindingView name) (fun _ => True) (update f : Run (W × OwnHistory) Unit) :=
  steady_modify fun s => by simp only [bindingView, hv]

theorem steady_bindOther {other : String} (h : name ≠ other) (value : Value) :
    Steady (bindingView name) (fun _ => True)
      (bindVar other value : Run (W × OwnHistory) Unit) :=
  steady_modify fun s => by simp only [bindingView, Progress.bind, KeyMap.find?_insert_of_ne _ _ h]

/-! ## What is kept that is seen of a variable -/

/-- Something that is true of a state by what is seen of a variable. -/
def SeenIn (name : String) (I : RunState (W × OwnHistory) → Prop) : Prop :=
  ∀ s t, bindingView name t = bindingView name s → I s → I t

/-- A part that keeps something true, whatever its end is. -/
abbrev Retains (I : RunState W → Prop) (part : Run W α) : Prop := Keeps I (fun _ => True) part

theorem retains_attempt {I : RunState W → Prop} {part : Run W α} (h : Retains I part) :
    Retains I (attempt part) := by
  intro s hs
  refine (ends_attempt (h s hs)).mono fun r t ht => ⟨?_, fun _ _ => trivial⟩
  match r, ht with
  | .ok (.ok _), ht | .ok (.error _), ht | .error _, ht => exact ht.1

theorem vars_onFrame (f : Frame → Frame) (p : Progress) : (p.onFrame f).vars = p.vars := by
  unfold Progress.onFrame
  split <;> rfl

theorem steers_pinned : Steers (.ofProperty fun α (m : Run W α) => KeepsPinned m) where
  pure a := steady_pure a
  bind hm hf := hm.bind hf
  fail _ := steady_throw trivial
  currentVars := steady_currentVars.keepsPinned
  emit event := (steady_emit event).keepsPinned
  reportAll lines := (steady_reportAll lines).keepsPinned
  throw _ := steady_throw trivial
  progress := steady_get.bind fun _ => steady_pure _
  steer _ _ hl := (keepsLoops_update hl).pinned
  attempt := steady_attempt

section Seen

variable {I : RunState (W × OwnHistory) → Prop} (hI : SeenIn name I)
include hI

theorem SeenIn.of_steady {P : Halt → Prop} {part : Run (W × OwnHistory) α}
    (h : Steady (bindingView name) P part) : Retains I part :=
  fun s hs => ⟨hI s _ (h.view s) hs, fun _ _ => trivial⟩

theorem SeenIn.steers :
    Steers (.ofProperty fun α (m : Run (W × OwnHistory) α) => Retains I m) where
  pure a := keeps_pure a
  bind hm hf := hm.bind hf
  fail _ := keeps_throw trivial
  currentVars := hI.of_steady (reads_bindingView name).currentVars
  emit event := hI.of_steady ((reads_bindingView name).emit event)
  reportAll lines := hI.of_steady ((reads_bindingView name).reportAll lines)
  throw _ := keeps_throw trivial
  progress := fun _ hs => ⟨hs, fun _ _ => trivial⟩
  steer _ hv _ := hI.of_steady (steady_steer hv)
  attempt := retains_attempt

theorem SeenIn.record (r : StepRecord) : Retains I (record r : Run (W × OwnHistory) Unit) :=
  fun s hs => ⟨hI s _ rfl hs, fun _ _ => trivial⟩

/-- A frame that does not keep the variable changes nothing of what is seen of it. -/
theorem SeenIn.inFrame {names : List String} (h : name ∉ names) {loop : Run (W × OwnHistory) α}
    (hp : KeepsPinned loop) (hs : Retains I loop) (site : LoopSite) (kind : LoopKind) :
    Retains I (inFrame site kind names loop) := by
  intro s hbegin
  have hloop := hs (entered site kind names s) (hI s _ rfl hbegin)
  rw [Ends, inFrame_apply, closing_apply, exitLoop_of_keepsPinned hp]
  refine ⟨hI _ _ ?_ hloop.1, fun _ _ => trivial⟩
  simp only [bindingView, Progress.find?_restore_of_notMem h]

/-- Loops with variables of other names keep what is seen of the variable. -/
theorem SeenIn.bindsLoops {names : List String} (h : name ∉ names) :
    BindsLoops (fun α (m m' : Run (W × OwnHistory) α) =>
      PartRelation.ofProperty (fun _ m => KeepsPinned m) α m m' ∧
        PartRelation.ofProperty (fun _ m => Retains I m) α m m') names :=
  { (steers_pinned.and hI.steers).toComposesReads with
    bindVar := fun other hother value => by
      have hne : name ≠ other := fun heq => h (heq ▸ hother)
      exact ⟨(steady_bindVar _ _).keepsPinned, hI.of_steady (steady_bindOther hne value)⟩
    setCursor := fun _ => ⟨keepsPinned_setCursor _, hI.of_steady (steady_steer (vars_onFrame _))⟩
    setTotal := fun _ => ⟨keepsPinned_setTotal _, hI.of_steady (steady_steer (vars_onFrame _))⟩
    inFrame := fun site kind hm => ⟨(putsBack_inFrame hm.1 site kind names).keepsLoops.pinned,
      hI.inFrame h hm.1 hm.2 site kind⟩ }

/-- A loop keeps what its passes keep, if it does so where it binds the variable itself. -/
theorem SeenIn.loop {names : List String} {pass : Run (W × OwnHistory) Unit}
    {loop : Run (W × OwnHistory) Value}
    (hbuilt : ∀ {R : PartRelation (W × OwnHistory) (W × OwnHistory)},
      Steers R → BindsLoops R names → R Unit pass pass → R Value loop loop)
    (hpass : KeepsLoops pass) (hbound : name ∈ names → Retains I loop)
    (hother : name ∉ names → Retains I pass) : Retains I loop := by
  by_cases hin : name ∈ names
  · exact hbound hin
  · exact (hbuilt (steers_pinned.and hI.steers) (hI.bindsLoops hin)
      ⟨hpass.pinned, hother hin⟩).2

/-! ### Visits -/

/-- Whatever the variable is bound to, it stays true. -/
def Unbinding (I : RunState (W × OwnHistory) → Prop) (s : RunState (W × OwnHistory)) : Prop :=
  ∀ t, t.world.2 = s.world.2 → I t

/-- A dispatched step that keeps something true, and keeps it true whatever the visit then binds the
variable to. -/
def DispatchRetains (name : String) (I : RunState (W × OwnHistory) → Prop) (step : Step Unit)
    (part : Run (W × OwnHistory) Value) : Prop :=
  ∀ s, I s → Ends part s fun r t => I t ∧
    match r with
    | .ok _ => step.outputVar = some name → Unbinding I t
    | .error (.failed failure) =>
      failure.isStepFailure = true → step.onError = .goOn → name = lastErrorVar → Unbinding I t
    | .error .outOfFuel | .error .panicked => True

variable {step : Step Unit} {s : RunState (W × OwnHistory)}

theorem SeenIn.ends_succeed (hs : I s) (hout : step.outputVar = some name → Unbinding I s)
    (path : String) (output : Value) : Ends (succeed step path output) s fun _ t => I t := by
  have hrecord := (hI.record (.success path output) s hs).1
  unfold succeed
  cases hvar : step.outputVar with
  | none => exact hrecord
  | some var =>
    by_cases hname : name = var
    · exact hout (hvar.trans (congrArg some hname.symm)) _ rfl
    · exact (hI.of_steady (steady_bindOther hname output) _ hrecord).1

theorem SeenIn.ends_failAt {failure : Failure} (hs : I s)
    (hout : failure.isStepFailure = true → step.onError = .goOn → name = lastErrorVar →
      Unbinding I s) (path : String) (index : Nat) :
    Ends (failAt step path index failure) s fun _ t => I t := by
  unfold failAt
  refine Ends.ite (fun hgoesOn => ?_) fun _ => ?_
  · rw [Bool.and_eq_true, decide_eq_true_eq] at hgoesOn
    by_cases hname : name = lastErrorVar
    · exact hout hgoesOn.1 hgoesOn.2 hname _ rfl
    · exact (((hI.steers.emit _).bind fun _ => (hI.record _).bind fun _ =>
        hI.of_steady (steady_bindOther hname _)) s hs).1
  · exact (((hI.steers.emit _).bind fun _ => (hI.record _).bind fun _ => keeps_throw trivial) s hs).1

/-- A visit keeps what its dispatched step keeps. -/
theorem SeenIn.visit {action : String → Nat → Run (W × OwnHistory) Value}
    (h : ∀ path index, DispatchRetains name I step (action path index)) (scope : String)
    (index : Nat) : Retains I (visit step action scope index) := by
  have hindex : Retains I
      (update fun p => { p with stepIndex := index } : Run (W × OwnHistory) Unit) :=
    hI.of_steady (steady_steer fun _ => rfl)
  refine hindex.bind fun _ => (hI.steers.emit _).bind fun _ =>
    (hI.steers.skips step).bind fun skipped => ?_
  cases skipped with
  | true => exact (hI.steers.emit _).bind fun _ => (hI.record _).bind fun _ => keeps_pure _
  | false =>
    refine (hI.steers.emit _).bind fun _ s hs => Ends.bind (ends_attempt (h _ _ s hs)) ?_ ?_
    · rintro (failure | v) t ⟨ht, hbinds⟩
      · exact (hI.ends_failAt ht hbinds (stepPath scope step.name) index).bind
          (fun _ u hu => ⟨hu, fun _ _ => trivial⟩) fun _ u hu => ⟨hu, fun _ _ => trivial⟩
      · exact (hI.ends_succeed ht hbinds (stepPath scope step.name) v).bind
          (fun _ u hu => ⟨hu, fun _ _ => trivial⟩) fun _ u hu => ⟨hu, fun _ _ => trivial⟩
    · rintro halt t ⟨ht, -⟩
      exact ⟨ht, fun _ _ => trivial⟩

end Seen

/-! ## The account -/

/-- A part that keeps something true of the account of the steps. -/
abbrev KeepsAccount (p : OwnHistory → Prop) (part : Run (W × OwnHistory) α) : Prop :=
  Tends (fun w => p w.2) (fun w => p w.2) part

theorem relatesOwn_keepsAccount (env : Setting W) {p : OwnHistory → Prop}
    {P : List String → Prop} (inside : ∀ names {around}, P around → P (names ++ around))
    (hp : ∀ (moment : OwnMoment) before, P moment.around → p before → p (moment :: before)) :
    RelatesOwn (.ofProperty fun α (m : Run (W × OwnHistory) α) => KeepsAccount p m) P env
      (env.paired OwnHistory) :=
  have htools : (env.paired OwnHistory).tools.Tend (fun w => p w.2) (fun w => p w.2) :=
    (keeps_beside env.tools OwnHistory).tend p
  { congruent_tends fun _ => id, composesTools_tends (fun _ => id) htools with
    fuel_eq := rfl
    inside := inside
    note := fun phase step around _ _ hP hm s hs =>
      hm (ownNoted phase step around s) (hp _ _ hP hs) }

/-- What an action does is not noted inside of it. -/
theorem act_world_snd (env : Setting W) (step : Step Unit) (action : Action) (path : String)
    (index : Nat) (s : RunState (W × OwnHistory)) :
    (act (env.paired OwnHistory) step action path index s).2.world.2 = s.world.2 := by
  have htools : (env.paired OwnHistory).tools.Tend (fun w => w.2 = s.world.2)
      (fun w => w.2 = s.world.2) :=
    (keeps_beside env.tools OwnHistory).tend (· = s.world.2)
  have hends : Tends (fun w => w.2 = s.world.2) (fun w => w.2 = s.world.2)
      (act (env.paired OwnHistory) step action path index) :=
    related_act (congruent_tends fun _ => id) (composesTools_tends (fun _ => id) htools) rfl
      step action path index
  exact (hends s rfl).1

/-! ## Steps without steps inside -/

/-- A part without steps inside: it leaves the variable alone, or it succeeds and its step is one
that binds it, or its step calls an adapter. -/
def LeavesVar (name : String) (step : Step Action) (part : Run (W × OwnHistory) Value) : Prop :=
  ∀ s, Ends part s fun r t => t.world.2 = s.world.2 ∧
    (t.progress.vars.find? name = s.progress.vars.find? name ∨
      ((∃ v, r = .ok v) ∧ name ∈ step.writtenVars) ∨
      ((∃ adapter params, step.tool = .adapter adapter params) ∧
        r ≠ .error .outOfFuel ∧ r ≠ .error .panicked))

variable {own : Step Action}

theorem leavesVar_of_steady {P : Halt → Prop} {part : Run (W × OwnHistory) Value}
    (h : Steady (bindingView name) P part) : LeavesVar name own part :=
  fun s => ⟨(bindingView_eq_iff.1 (h.view s)).2, .inl (bindingView_eq_iff.1 (h.view s)).1⟩

theorem leavesVar_runSet {var : String} {value : Value} {parseJson : Bool}
    (htool : own.tool = .set var value parseJson) (step : Step Unit) :
    LeavesVar name own (runSet step var value parseJson : Run (W × OwnHistory) Value) := by
  by_cases hvar : name = var
  · intro s
    have hwritten : name ∈ own.writtenVars := by
      rw [Step.writtenVars, htool, hvar]
      exact List.mem_append_right _ List.mem_cons_self
    rw [Ends, runSet, bind_ok (show currentVars s = (.ok s.progress.vars, s) from rfl)]
    cases valueToSet s.progress.vars var value parseJson with
    | ok v => exact ⟨rfl, .inr (.inl ⟨⟨v, rfl⟩, hwritten⟩)⟩
    | error message => exact ⟨rfl, .inl rfl⟩
  · exact leavesVar_of_steady
      ((reads_bindingView name).runSet step var value parseJson fun v => steady_bindOther hvar v)

/-- An adapter answers, and its step ends as the answer says. -/
theorem runAdapter_answered (env : Setting W) (step : Step Unit) (path adapter : String)
    (params : Value) (s : RunState W) :
    ∃ (outcome : Except String Value) (t : RunState W),
      runAdapter env step path adapter params s =
        (match outcome with
        | .ok v => return v
        | .error message => fail (.stepFailed step.name message) : Run W Value) t :=
  ⟨_, _, rfl⟩

theorem leavesVar_runAdapter {adapter : String} {params : Value}
    (htool : own.tool = .adapter adapter params) (env : Setting W) (step : Step Unit)
    (path : String) :
    LeavesVar name own (runAdapter (env.paired OwnHistory) step path adapter params) := by
  intro s
  refine ⟨act_world_snd env step (.adapter adapter params) path 0 s,
    .inr (.inr ⟨⟨_, _, htool⟩, ?_⟩)⟩
  obtain ⟨outcome, t, hcall⟩ :=
    runAdapter_answered (env.paired OwnHistory) step path adapter params s
  rw [hcall]
  constructor
  · intro hfuel
    cases outcome <;> cases hfuel
  · intro hpanic
    cases outcome <;> cases hpanic

/-- An action without steps inside does no more to a variable than its step says. -/
theorem leavesVar_act (env : Setting W) (step : Step Unit) {action : Action}
    (htool : own.tool = action) (hplain : action.isPlain = true) (path : String) (index : Nat) :
    LeavesVar name own (act (env.paired OwnHistory) step action path index) := by
  cases action with
  | bash command timeout =>
    exact leavesVar_of_steady ((readsTools_bindingView env name).runBash step command timeout)
  | agent text => exact leavesVar_of_steady ((readsTools_bindingView env name).runAgent step text)
  | prompt text => exact leavesVar_of_steady ((readsTools_bindingView env name).runPrompt step text)
  | log message level =>
    exact leavesVar_of_steady ((reads_bindingView name).runLog path message level)
  | goto _ | leave | next =>
    exact leavesVar_of_steady ((steady_steer fun _ => rfl).bind fun _ => steady_pure _)
  | set var value parseJson => exact leavesVar_runSet htool step
  | adapter adapter params => exact leavesVar_runAdapter htool env step path
  | foreach _ _ | whilst _ _ | range _ _ | retry _ _ | shared _ _ _ => cases hplain

end Run

end Runbook
