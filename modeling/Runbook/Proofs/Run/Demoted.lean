import Runbook.Proofs.Run.Frames
import Runbook.Proofs.Run.Structured
import Runbook.Proofs.Run.Unvisited

/-!
# Failures that a run goes past

A step may be told to let the run go on when it fails.  If none of the steps inside it had its turn,
such a failure leaves a message in one variable and nothing else.

* `varsLeft` are the variables that a step leaves when it fails before the turn of any step inside
  it comes, and `act_failed_untilTurn` says that it leaves everything else as it was, tool by tool;
* `visit_failed` is the visit of a step that fails and lets the run go on, and `visitFrom_failed` is
  what becomes of its list;
* `Definition.demotesFailures` is the result, and `countingSetting_counts` has an adapter that
  changes a variable and fails.
-/

namespace Runbook

/-- All of a step but what it does. -/
def Step.outside (step : Step Action) : Step Unit :=
  ⟨step.name, step.condition, step.onError, step.outputVar, step.visible, step.cwd, step.model, ()⟩

/-- What is reported when the condition of a step is tried. -/
def Step.conditionNotes (step : Step Unit) (vars : Variables) : List Event :=
  match step.condition with
  | some condition => (Condition.warnings vars condition).map Event.note
  | none => []

/-- The state in which a step is dispatched whose turn has come. -/
def RunState.dispatching {W : Type} (s : RunState W) (step : Step Unit) (path : String)
    (index : Nat) : RunState W :=
  { s with
    progress := { s.progress with stepIndex := index }
    events := .turn path (.running index) :: ((step.conditionNotes s.progress.vars).reverse ++
      .turn path (.ready index) :: s.events) }

namespace Run

open Portion

variable {W : Type}

/-- The variables that a step leaves when it fails before the turn of a step inside it comes: an
adapter has the variables in its hands, and no other step does anything to them. -/
def varsLeft (env : Setting W) (step : Step Unit) (s : RunState W) : Action → Variables
  | .adapter name params =>
    let vars := s.progress.vars
    let call : AdapterCall := ⟨step.name, vars.interpolateValue params, workingDir env step vars⟩
    (env.tools.adapter name call vars s.world).1.vars
  | .bash _ _ | .agent _ | .prompt _ | .set _ _ _ | .log _ _ | .goto _ | .leave | .next
  | .foreach _ _ | .whilst _ _ | .range _ _ | .retry _ _ | .shared _ _ _ => s.progress.vars

/-! ## Dispatches -/

theorem overlooksTools_progress :
    OverlooksTools (fun _ : W => ()) (fun s : RunState W => s.progress) where
  events _ _ := rfl
  world _ _ _ _ := rfl

/-- Tools other than adapters leave everything that a run goes by alone. -/
theorem readsTools_progress (env : Setting W) :
    ReadsTools env env (.ofProperty fun α (m : Run W α) =>
      Steady (fun s : RunState W => s.progress) (fun _ => True) m) :=
  overlooksTools_progress.readsTools (fun _ _ => trivial) (keeps_unit env) (.inl trivial)

/-- A step that fails to bind a variable leaves everything as it was. -/
theorem progress_runSet_error {step : Step Unit} {var : String} {value : Value} {parseJson : Bool}
    {s t : RunState W} {halt : Halt}
    (h : runSet step var value parseJson s = (.error halt, t)) : t.progress = s.progress := by
  rw [runSet, bind_ok (show currentVars s = (.ok s.progress.vars, s) from rfl)] at h
  cases hv : valueToSet s.progress.vars var value parseJson with
  | ok v =>
    rw [hv] at h
    cases h
  | error message =>
    rw [hv] at h
    cases h
    rfl

/-- The variables are as an adapter leaves them, and nothing else is changed. -/
theorem progress_runAdapter (env : Setting W) (step : Step Unit) (path name : String)
    (params : Value) (s : RunState W) :
    (runAdapter env step path name params s).2.progress =
      { s.progress with vars := varsLeft env step s (.adapter name params) } := by
  show Ends (runAdapter env step path name params) s fun _ t => t.progress = _
  unfold runAdapter
  refine Ends.bind_ok (rfl : currentVars s = (.ok s.progress.vars, s)) ?_
  refine Ends.bind_ok rfl (Ends.bind_ok (reach_apply _ _) (Ends.bind_ok rfl ?_))
  -- whether it succeeded or not, all is done
  split <;> rfl

/-- A call fails before the turn of its first step only if its inputs cannot be bound. -/
theorem progress_runShared_untilTurn {env : Setting W} {step : Step Unit} {path : String}
    {sig : Signature} {inputs : KeyMap Value} {outputs : KeyMap String}
    {steps : List (Step Action)} {s t : RunState W} {failure : Failure}
    (h : runShared step path sig inputs outputs (visitFrom (stopsOf env steps) path env.fuel 0) s =
      (.error (.failed failure), t)) (hturns : t.turns = s.turns) :
    t.progress = s.progress := by
  cases hbind : sig.bindInputs inputs s.progress.vars with
  | error refused =>
    rw [runShared_error hbind] at h
    cases h
    rfl
  | ok bound =>
    have hcalling : (calling path sig inputs bound s).turns = s.turns := by
      have hnotes := turns_reportAll (sig.undeclaredNotes inputs) s
      exact hnotes
    obtain ⟨-, hstill⟩ := ends_visitFrom_untilTurn (turns_stopsOf env steps) path env.fuel 0
      (calling path sig inputs bound s)
    rw [runShared_ok hbind] at h
    rcases hbody : visitFrom (stopsOf env steps) path env.fuel 0
      (calling path sig inputs bound s) with ⟨halt | _, u⟩
    · rw [hbody] at h hstill
      obtain ⟨hhalt, rfl⟩ := Prod.mk.inj h
      cases hhalt
      exact absurd rfl ((hstill (hturns.trans hcalling.symm)).2 failure)
    · rw [hbody] at h
      cases h

/-- A step that fails before the turn of a step inside it comes leaves everything as it was, but for
the variables in the hands of an adapter. -/
theorem act_failed_untilTurn {env : Setting W} {step : Step Unit} {action : Action} {path : String}
    {index : Nat} {s t : RunState W} {failure : Failure} (hquiet : s.progress.signal = .quiet)
    (hact : act env step action path index s = (.error (.failed failure), t))
    (hturns : t.turns = s.turns) :
    t.progress = { s.progress with vars := varsLeft env step s action } := by
  have hloops (steps : List (Step Action)) (scope : String) :
      KeepsLoops (visitFrom (stopsOf env steps) scope env.fuel 0) :=
    keepsLoops_visitFrom (keepsLoops_stopsOf env steps) scope env.fuel 0
  have hleaves (steps : List (Step Action)) (scope : String) (names : List String) :
      LeavesUntilTurn (loopView names) (visitFrom (stopsOf env steps) scope env.fuel 0) :=
    leavesUntilTurn_visitFrom (loopView names) env steps scope env.fuel 0
  obtain rfl : (act env step action path index s).2 = t := by rw [hact]
  cases action with
  | bash command timeout => exact ((readsTools_progress env).runBash step command timeout).view s
  | agent text => exact ((readsTools_progress env).runAgent step text).view s
  | prompt text => exact ((readsTools_progress env).runPrompt step text).view s
  | log message level => exact ((readsTools_progress env).runLog path message level).view s
  | set var value parseJson => exact progress_runSet_error hact
  | goto _ | leave | next => cases hact
  | foreach loop steps =>
    exact progress_eq_of_putsBack (putsBack_foreachLoop (hloops steps path) _ loop)
      (leavesUntilTurn_foreachLoop (hloops steps path) (hleaves steps path) _ _ loop) hquiet hturns
  | whilst loop steps =>
    exact progress_eq_of_putsBack (putsBack_whileLoop (hloops steps path) _ loop)
      (leavesUntilTurn_whileLoop (hloops steps path) (hleaves steps path) _ loop) hquiet hturns
  | range loop steps =>
    exact progress_eq_of_putsBack (putsBack_rangeLoop (hloops steps path) _ loop)
      (leavesUntilTurn_rangeLoop (hloops steps path) (hleaves steps path) _ loop) hquiet hturns
  | retry loop steps =>
    exact progress_eq_of_putsBack (putsBack_retryLoop (hloops steps path) _ loop)
      (leavesUntilTurn_retryLoop (hloops steps path) (hleaves steps path) _ loop) hquiet hturns
  | shared callee inputs outputs =>
    obtain ⟨_, signature, steps, _⟩ := callee
    exact progress_runShared_untilTurn hact hturns
  | adapter name params =>
    exact progress_runAdapter env step path name params s

/-! ## Visits -/

/-- Trying the condition of a step only reports what is wrong with it. -/
theorem skips_apply (step : Step Unit) (s : RunState W) :
    skips step s = (.ok (!step.condition.all (Condition.evaluate s.progress.vars)),
      { s with events := (step.conditionNotes s.progress.vars).reverse ++ s.events }) := by
  unfold skips Step.conditionNotes
  cases step.condition with
  | none => rfl
  | some condition => rfl

/-- What is made of the failure of a step that lets the run go on. -/
theorem failAt_goOn {step : Step Unit} (h : step.onError = .goOn) (path : String) (index : Nat)
    (name message : String) (s : RunState W) :
    ∃ line, failAt step path index (.stepFailed name message) s = (.ok (), { s with
      progress := s.progress.bind lastErrorVar (.string message)
      records := .failure path message :: s.records
      events := .note line :: s.events }) := by
  have hgoesOn : ((Failure.stepFailed name message).isStepFailure &&
      decide (step.onError = .goOn)) = true := by
    rw [h]
    rfl
  rw [failAt, if_pos hgoesOn]
  exact ⟨_, rfl⟩

/-- The visit of a step that fails and lets the run go on. -/
theorem ends_visit_goOn {step : Step Unit} {action : String → Nat → Run W Value} {scope : String}
    {index : Nat} {s t : RunState W} {name message : String} (hgoesOn : step.onError = .goOn)
    (hholds : step.condition.all (Condition.evaluate s.progress.vars) = true)
    (hact : action (stepPath scope step.name) index
        (s.dispatching step (stepPath scope step.name) index) =
      (.error (.failed (.stepFailed name message)), t)) :
    Ends (visit step action scope index) s fun r u => r = .ok true ∧
      u.progress = t.progress.bind lastErrorVar (.string message) ∧
      u.records = .failure (stepPath scope step.name) message :: t.records ∧
      u.world = t.world := by
  obtain ⟨ready, hready⟩ : ∃ ready, ready = { s with
    progress := { s.progress with stepIndex := index }
    events := .turn (stepPath scope step.name) (.ready index) :: s.events } := ⟨_, rfl⟩
  have hturn : emit (.turn (stepPath scope step.name) (.ready index))
      { s with progress := { s.progress with stepIndex := index } } = (.ok (), ready) := by
    rw [hready]
    rfl
  have hskips := skips_apply step ready
  rw [show step.condition.all (Condition.evaluate ready.progress.vars) = true by
    rw [hready]; exact hholds] at hskips
  have hattempt : attempt (action (stepPath scope step.name) index)
      (s.dispatching step (stepPath scope step.name) index) =
      (.ok (.error (.stepFailed name message)), t) := by
    rw [attempt, hact]
  have hrunning : emit (.turn (stepPath scope step.name) (.running index))
      { ready with events := (step.conditionNotes ready.progress.vars).reverse ++ ready.events } =
      (.ok (), s.dispatching step (stepPath scope step.name) index) := by
    rw [hready]
    rfl
  obtain ⟨line, hfailed⟩ := failAt_goOn hgoesOn (stepPath scope step.name) index name message t
  refine Ends.bind_ok rfl (Ends.bind_ok hturn (Ends.bind_ok hskips ?_))
  rw [Bool.not_true, if_neg Bool.false_ne_true]
  exact Ends.bind_ok hrunning (Ends.bind_ok hattempt (Ends.bind_ok hfailed ⟨rfl, rfl, rfl, rfl⟩))

theorem stopsOf_getElem? (env : Setting W) :
    ∀ (steps : List (Step Action)) (index : Nat) (step : Step Action), steps[index]? = some step →
      (stopsOf env steps)[index]? =
        some ⟨step.name, visit step.outside (act env step.outside step.tool)⟩
  | step :: _, 0, _, h => by
    obtain rfl := Option.some.inj h
    obtain ⟨_, _, _, _, _, _, _, _⟩ := step
    rfl
  | _ :: rest, index + 1, step, h => stopsOf_getElem? env rest index step h

/-- Nothing is left to be done after a step whose failure leaves no trace, so the next step of the
list comes. -/
theorem visitFrom_goOn {stops : List (Stop W)} {scope : String} {index : Nat} {stop : Stop W}
    {s u : RunState W} (hstop : stops[index]? = some stop)
    (hvisit : stop.visit scope index s = (.ok true, u)) (hidle : u.progress.Idle) (fuel : Nat) :
    visitFrom stops scope (fuel + 1) index s = visitFrom stops scope fuel (index + 1) u := by
  have hnext : nextIndex stops scope stop.name index u = (.ok (some (index + 1)), u) := by
    rw [nextIndex, bind_ok (show progress u = (.ok u.progress, u) from rfl),
      if_neg (not_not.2 hidle.1), hidle.2]
    rfl
  rw [visitFrom, hstop]
  dsimp only
  rw [bind_ok hvisit, if_pos rfl, bind_ok hnext]

end Run

/-! ## Results -/

/-- A failure that lets a run go on, before the turn of any step inside the failed one came, leaves
its message and nothing else. -/
structure Workflow.DemotesFailures {W : Type} (w : Workflow) (env : Setting W)
    (overrides : List (String × Value)) (directory : String) (world : W) : Prop where
  /-- Whenever the turn of a step comes, nothing is left to be done for the step before. -/
  idle : ∀ m ∈ w.history env overrides directory world, ∀ place, m.what = .turn place →
    m.progress.Idle
  /-- In any such state, let the turn come of a step of a list, which is not skipped and fails
  before the turn of a step inside it comes, though the run is to go on.  Then the next step of the
  list comes, the message is bound to its variable, and beside that all is as it was when the step's
  turn came; only an adapter may have changed variables itself. -/
  demoted : ∀ (setting : Setting W) (steps : Block) (scope : String) (fuel index : Nat)
    (step : Step Action) (before : RunState W), before.progress.Idle →
    steps[index]? = some step → step.onError = .goOn →
    step.condition.all (Condition.evaluate before.progress.vars) = true →
    let path := Run.stepPath scope step.name
    let begun := before.dispatching step.outside path index
    ∀ name message after,
      Run.act setting step.outside step.tool path index begun =
        (.error (.failed (.stepFailed name message)), after) →
      after.turns = begun.turns →
      ∃ next, Run.visitFrom (Run.stopsOf setting steps) scope (fuel + 1) index before =
          Run.visitFrom (Run.stopsOf setting steps) scope fuel (index + 1) next ∧
        next.progress = { before.progress with
          stepIndex := index
          vars := (Run.varsLeft setting step.outside begun step.tool).insert Run.lastErrorVar
            (.string message) } ∧
        next.records = .failure path message :: after.records ∧ next.world = after.world

section Results

open Portion

variable {W : Type} {d : Definition} {source : Option String} {c : Compiler} {s t : CompileState}
  {w : Workflow}

/-- **A failure that a run goes past leaves a message and nothing else**, whatever was compiled
before and whatever the tools do. -/
theorem Definition.demotesFailures (hs : s.Reached) (h : d.compile source c s = (.ok w, t))
    (env : Setting W) (overrides : List (String × Value)) (directory : String) (world : W) :
    w.DemotesFailures env overrides directory world := by
  have horderly := Workflow.history_orderly (Definition.compile_sound hs h) env overrides directory
    world
  refine ⟨?_, ?_⟩
  · rintro ⟨what, progress⟩ hm place rfl
    exact (horderly _ hm).2
  · intro setting steps scope fuel index step before hidle hstep hgoesOn hholds path begun name
      message after hact hturns
    have hafter : after.progress = { begun.progress with
        vars := Run.varsLeft setting step.outside begun step.tool } :=
      Run.act_failed_untilTurn hidle.1 hact hturns
    obtain ⟨next, hnext⟩ : ∃ next, next =
      (Run.visit step.outside (Run.act setting step.outside step.tool) scope index before).2 :=
      ⟨_, rfl⟩
    have hends : Ends (Run.visit step.outside (Run.act setting step.outside step.tool) scope index)
        before fun r u => r = .ok true ∧
          u.progress = after.progress.bind Run.lastErrorVar (.string message) ∧
          u.records = .failure path message :: after.records ∧ u.world = after.world :=
      Run.ends_visit_goOn hgoesOn hholds hact
    rw [Ends, ← hnext] at hends
    obtain ⟨hran, hprogress, hrecords, hworld⟩ := hends
    have hleft : next.progress = { before.progress with
        stepIndex := index
        vars := (Run.varsLeft setting step.outside begun step.tool).insert Run.lastErrorVar
          (.string message) } := by
      rw [hprogress, hafter]
      rfl
    have hrest : next.progress.Idle := by
      rw [hleft]
      exact hidle
    exact ⟨next, Run.visitFrom_goOn (Run.stopsOf_getElem? setting steps index step hstep)
      (Prod.ext hran hnext.symm) hrest fuel, hleft, hrecords, hworld⟩

end Results

/-- A loop over something that is not a list, which binds the item to the variable for the message,
and a step after it. -/
def carryingOn : Definition where
  name := "carrying on"
  description := none
  version := "1"
  vars := KeyMap.empty.insert Run.lastErrorVar (.string "nothing yet")
  defaults := {}
  steps :=
    [{ Builtin.plainStep "each" (.foreach
        ⟨.bool true, Run.lastErrorVar, "index", none, none, .ascending, none⟩
        [Builtin.plainStep "bind" (.set "index" .null false)]) with
      onError := .goOn
      outputVar := some "index" },
    Builtin.plainStep "after" (.set "done" (.bool true) false)]

/-- The state in which a workflow begins to run without a project. -/
def Workflow.begun (w : Workflow) : RunState Unit := w.start (.default "/") [] "" ()

/-- The loop is dispatched, and fails before the turn of the step inside it comes. -/
theorem carryingOn_fails : ∃ w t step after,
    carryingOn.compile none bareCompiler .empty = (.ok w, t) ∧ w.body[0]? = some step ∧
      step.onError = .goOn ∧
      step.condition.all (Condition.evaluate w.begun.progress.vars) = true ∧
      let begun := w.begun.dispatching step.outside (Run.stepPath "" step.name) 0
      Run.act (bareSetting 10) step.outside step.tool (Run.stepPath "" step.name) 0 begun =
        (.error (.failed (.stepFailed "each" "items must be a list or a template, got true")),
          after) ∧
      after.turns = begun.turns ∧
      Run.varsLeft (bareSetting 10) step.outside begun step.tool = w.begun.progress.vars :=
  ⟨_, _, _, _, rfl, rfl, rfl, rfl, rfl, rfl, rfl⟩

/-- The message is all that the next step finds changed. -/
theorem Definition.demotesFailures_carryingOn : ∃ w t next,
    carryingOn.compile none bareCompiler .empty = (.ok w, t) ∧
      Run.visitFrom (Run.stopsOf (bareSetting 10) w.body) "" 10 0 w.begun =
        Run.visitFrom (Run.stopsOf (bareSetting 10) w.body) "" 9 1 next ∧
      next.progress = { w.begun.progress with
        stepIndex := 0
        vars := w.begun.progress.vars.insert Run.lastErrorVar
          (.string "items must be a list or a template, got true") } := by
  obtain ⟨w, t, step, after, h, hstep, hgoesOn, hholds, hact, hturns, hvars⟩ := carryingOn_fails
  have hdemotes := Definition.demotesFailures (.empty []) h (bareSetting 10) [] "" ()
  obtain ⟨next, hnext, hprogress, -, -⟩ := hdemotes.demoted (bareSetting 10) w.body "" 9 0 step
    w.begun ⟨rfl, rfl⟩ hstep hgoesOn hholds _ _ after hact hturns
  rw [hvars] at hprogress
  exact ⟨w, t, next, h, hnext, hprogress⟩

/-- A setting with an adapter that notes in a variable that it was called, and fails. -/
def countingSetting : Setting Unit :=
  { bareSetting 10 with
    tools := { Tools.bare with
      adapter := fun _ _ vars world =>
        (⟨.error "attempt 1", vars.insert "flaky_count" (.int 1)⟩, world) } }

/-- A call of that adapter after whose failure the run is to go on. -/
def callCounting : Step Action :=
  ⟨"try", none, .goOn, none, none, none, none, .adapter "flaky" .null⟩

/-- The failure of an adapter may leave more than its message: it has the variables in its hands. -/
theorem countingSetting_counts :
    let before : RunState Unit := ⟨.start .empty, [], [], ⟨"", 0, .empty⟩, ()⟩
    let begun := before.dispatching callCounting.outside "try" 0
    ∃ after left,
      Run.act countingSetting callCounting.outside callCounting.tool "try" 0 begun =
        (.error (.failed (.stepFailed "try" "attempt 1")), after) ∧
      after.turns = begun.turns ∧
      Run.block countingSetting [callCounting] "" before = (.ok (), left) ∧
      before.progress.vars.find? "flaky_count" = none ∧
      left.progress.vars.find? "flaky_count" = some (.int 1) :=
  ⟨_, _, rfl, rfl, rfl, rfl, rfl⟩

end Runbook
