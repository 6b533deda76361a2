import Runbook.Proofs.Run.Visits
import Runbook.Proofs.Workflow.Checked

/-!
# Structured runs

What checking a workflow is worth when it runs.

* `leaveFrom_sound` says how a sound list of steps is left, from any state in which nothing is left
  to be done;
* `Definition.runsSafely` says that no failure of a run has to do with the structure of its
  workflow, and that nothing is left early;
* `Definition.loopsExact` says that the active loops are those around each step, and that every list
  of steps leaves them as it found them.
-/

namespace Runbook

open Portion

namespace Run

variable {W : Type}

/-- What holds when a list of `length` steps has been left that was entered with these loops. -/
def LeftWell (loops : List Frame) (inLoop : Bool) (length : Nat) (r : Except Halt Nat)
    (t : RunState W) : Prop :=
  t.progress.loops = loops ∧ t.progress.jump = none ∧
    match r with
    | .ok index => (t.progress.signal ≠ .quiet → inLoop = true) ∧ (inLoop = false → length ≤ index)
    | .error halt => halt.OfRun ∧ t.progress.signal = .quiet

/-- A sound list of steps is left well from any state in which nothing is left to be done. -/
theorem leaveFrom_sound {block : Block} {inLoop : Bool} (h : block.Sound inLoop) (env : Setting W)
    (scope : String) {s : RunState W} (hs : s.progress.Idle) :
    Ends (leaveFrom (stopsOf env block) scope env.fuel 0) s
      (LeftWell s.progress.loops inLoop block.length) := by
  have hready : Ready s.progress.loops [] (s.beside []) :=
    ⟨hs, exact_self _, fun _ hm => absurd hm List.not_mem_nil⟩
  have hstops : Visitable s.progress.loops (stepNames block) inLoop []
      (watchedStops env [] block) :=
    ⟨watchedStops_names env [] block, visit_watchedStops env block h.2⟩
  -- the list is left as it is when it is watched, where the invariant is known
  have hshadow : leaveFrom (stopsOf env block) scope env.fuel 0 s = _ :=
    shadows_leaveFrom (shadowStops_watchedStops env [] block) scope env.fuel 0 (s.beside [])
  have hlength : (watchedStops env [] block).length = block.length := by
    rw [← List.length_map (fun stop => stop.name), hstops.names_eq, stepNames, List.length_map]
  have hends := leaveFrom_ends hstops scope env.fuel 0 _ hready
  rw [Ends, hlength] at hends
  rw [Ends, hshadow]
  generalize leaveFrom (watchedStops env [] block) scope env.fuel 0 (s.beside []) = e at hends
  obtain ⟨r, t⟩ := e
  obtain ⟨hwell, hpast⟩ := hends
  cases r with
  | ok index =>
    have hdone : Done s.progress.loops [] inLoop [] t := hwell
    refine ⟨hdone.exact.eq_base, hdone.jump_eq_none, hdone.signal, fun hin => ?_⟩
    subst hin
    exact hpast index rfl hdone.ready.idle.1
  | error halt =>
    obtain ⟨hof, hidle⟩ := hwell
    exact ⟨hidle.exact.eq_base, hidle.idle.2, hof, hidle.idle.1⟩

/-- Running the steps of a list is going from step to step until the list is left. -/
theorem block_eq_leaveFrom (env : Setting W) (steps : Block) (scope : String) :
    block env steps scope =
      (leaveFrom (stopsOf env steps) scope env.fuel 0 >>= fun _ => pure ()) :=
  visitFrom_eq_leaveFrom _ _ _ _

/-- A sound list of steps, run from any state in which nothing is left to be done. -/
theorem block_sound {b : Block} {inLoop : Bool} (h : b.Sound inLoop) (env : Setting W)
    (scope : String) {s t : RunState W} (hs : s.progress.Idle) {r : Except Halt Unit}
    (hr : block env b scope s = (r, t)) :
    t.progress.loops = s.progress.loops ∧ t.progress.jump = none ∧
      (t.progress.signal ≠ .quiet → r = .ok () ∧ inLoop = true) ∧
      (∀ halt, r = .error halt → halt.OfRun) ∧
      (r = .ok () → ∃ index, leaveFrom (stopsOf env b) scope env.fuel 0 s = (.ok index, t) ∧
        (inLoop = false → b.length ≤ index)) := by
  have hleft := leaveFrom_sound h env scope hs
  rw [block_eq_leaveFrom] at hr
  rw [Ends] at hleft
  rcases he : leaveFrom (stopsOf env b) scope env.fuel 0 s with ⟨e | index, u⟩
  · rw [he] at hleft
    rw [bind_error he] at hr
    cases hr
    obtain ⟨hloops, hjump, hof, hsignal⟩ := hleft
    exact ⟨hloops, hjump, fun hne => absurd hsignal hne, fun _ hh => by cases hh; exact hof,
      fun hh => by cases hh⟩
  · rw [he] at hleft
    rw [bind_ok he] at hr
    cases hr
    obtain ⟨hloops, hjump, hsignal, hpast⟩ := hleft
    exact ⟨hloops, hjump, fun hne => ⟨rfl, hsignal hne⟩, fun _ hh => (by cases hh),
      fun _ => ⟨index, rfl, hpast⟩⟩

end Run

/-- What holds at each moment of a run of a sound workflow. -/
theorem Workflow.history_orderly {W : Type} {w : Workflow} (h : Block.Sound false w.body)
    (env : Setting W) (overrides : List (String × Value)) (directory : String) (world : W) :
    ∀ m ∈ w.history env overrides directory world, m.Orderly [] := by
  have hready : Run.Ready [] [] ((w.start env.config overrides directory world).beside []) :=
    ⟨⟨rfl, rfl⟩, exact_self _, fun _ hm => absurd hm List.not_mem_nil⟩
  have hends := Run.endsWell_watchList
    ⟨Run.watchedStops_names { env with defaults := w.defaults } [] w.body,
      Run.visit_watchedStops { env with defaults := w.defaults } w.body h.2⟩ "" env.fuel hready
  intro m hm
  unfold Workflow.history Workflow.watch at hm
  rw [Ends] at hends
  generalize Run.watchList false [] _ _ _ _ = e at hends hm
  obtain ⟨r, t⟩ := e
  cases r with
  | ok _ => exact hends.orderly m hm
  | error _ => exact hends.2.orderly m hm

/-- The failure that a run of a sound workflow reports came up while steps ran. -/
theorem Workflow.run_failure {W : Type} {w : Workflow} (h : Block.Sound false w.body)
    {env : Setting W} {overrides : List (String × Value)} {directory : String} {world world' : W}
    {report : Report} (hr : w.run env overrides directory world = (some report, world'))
    {failure : Failure} (hf : report.failure = some failure) : failure.ofRun = true := by
  rw [Workflow.run] at hr
  rcases he : Run.block { env with defaults := w.defaults } w.body ""
    (w.start env.config overrides directory world) with ⟨(failure' | _ | _) | _, s⟩
  · rw [he] at hr
    cases hr
    cases hf
    have hsound := Run.block_sound h _ "" (s := w.start env.config overrides directory world)
      ⟨rfl, rfl⟩ he
    exact Halt.ofRun_failed.1 (hsound.2.2.2.1 _ rfl)
  · rw [he] at hr
    cases hr
  · rw [he] at hr
    cases hr
  · rw [he] at hr
    cases hr
    cases hf

/-! ## Results -/

section Results

variable {W : Type}

/-- A run of a workflow never fails for the structure of the workflow, nor leaves a list of steps
early. -/
structure Workflow.RunsSafely (w : Workflow) (env : Setting W) (overrides : List (String × Value))
    (directory : String) (world : W) : Prop where
  /-- The failure that the run reports came up while steps ran. -/
  report : ∀ report world', w.run env overrides directory world = (some report, world') →
    ∀ failure, report.failure = some failure → failure.ofRun = true
  /-- The history is one of this run. -/
  watched : Run.block { env with defaults := w.defaults } w.body ""
      (w.start env.config overrides directory world) =
    ((w.watch env overrides directory world).1, (w.watch env overrides directory world).2.forget)
  /-- So did the failure of every step. -/
  ended : ∀ m ∈ w.history env overrides directory world, ∀ place failure,
    m.what = .ended place (.error failure) → failure.ofRun = true
  /-- Every list of steps that is not the body of a loop is left behind its last step. -/
  left : ∀ m ∈ w.history env overrides directory world, ∀ list index,
    m.what = .left list index → list.inLoop = false → list.length ≤ index
  /-- The same failures end each list of steps in the workflow from any state in which nothing is
  left to be done. -/
  fails : ∀ inLoop b, w.body.Has inLoop b → ∀ (scope : String) (before after : RunState W) failure,
    before.progress.Idle → Run.block env b scope before = (.error (.failed failure), after) →
      failure.ofRun = true
  /-- And those that are not bodies of loops end only behind their last steps. -/
  past : ∀ b, w.body.Has false b → ∀ (scope : String) (before after : RunState W),
    before.progress.Idle → Run.block env b scope before = (.ok (), after) →
      ∃ index, Run.leaveFrom (Run.stopsOf env b) scope env.fuel 0 before = (.ok index, after) ∧
        b.length ≤ index

/-- The active loops of a run of a workflow are those around each step, and every list of steps
leaves them as it found them. -/
structure Workflow.LoopsExact (w : Workflow) (env : Setting W) (overrides : List (String × Value))
    (directory : String) (world : W) : Prop where
  /-- The history is one of this run. -/
  watched : Run.block { env with defaults := w.defaults } w.body ""
      (w.start env.config overrides directory world) =
    ((w.watch env overrides directory world).1, (w.watch env overrides directory world).2.forget)
  /-- The frames are those of the loops around what happens, the innermost first. -/
  tags : ∀ m ∈ w.history env overrides directory world,
    m.progress.loops.map Frame.tag = m.what.around
  /-- Each frame whose number of passes is known is at one of them. -/
  cursors : ∀ m ∈ w.history env overrides directory world, ∀ frame ∈ m.progress.loops,
    ∀ total, frame.total = some total → frame.cursor < total
  /-- Each list of steps that is entered with nothing left to be done leaves the frames as it found
  them, with no jump; and with nothing asked of a loop, unless it is the body of a loop and did not
  fail. -/
  lists : ∀ inLoop b, w.body.Has inLoop b → ∀ (scope : String) (before : RunState W),
    before.progress.Idle → Ends (Run.block env b scope) before (fun r after =>
      after.progress.loops = before.progress.loops ∧ after.progress.jump = none ∧
        (after.progress.signal ≠ .quiet → r = .ok () ∧ inLoop = true))

variable {d : Definition} {source : Option String} {c : Compiler} {s t : CompileState}
  {w : Workflow}

/-- **Checking leaves nothing to go wrong with the structure**, whatever was compiled before and
whatever the tools do. -/
theorem Definition.runsSafely (hs : s.Reached) (h : d.compile source c s = (.ok w, t))
    (env : Setting W) (overrides : List (String × Value)) (directory : String) (world : W) :
    w.RunsSafely env overrides directory world := by
  have hsound := Definition.compile_sound hs h
  have horderly := Workflow.history_orderly hsound env overrides directory world
  refine ⟨?_, w.forget_watch env overrides directory world, ?_, ?_, ?_, ?_⟩
  · intro report world' hr failure hf
    exact Workflow.run_failure hsound hr hf
  · rintro ⟨what, progress⟩ hm place failure rfl
    exact (horderly _ hm).2
  · rintro ⟨what, progress⟩ hm list index rfl hin
    exact ((horderly _ hm).2 hin).2
  · intro inLoop b hb scope before after failure hidle hr
    obtain ⟨-, -, -, hof, -⟩ := Run.block_sound (hsound.has hb) env scope hidle hr
    exact Halt.ofRun_failed.1 (hof _ rfl)
  · intro b hb scope before after hidle hr
    obtain ⟨-, -, -, -, hleft⟩ := Run.block_sound (hsound.has hb) env scope hidle hr
    obtain ⟨index, hindex, hpast⟩ := hleft rfl
    exact ⟨index, hindex, hpast rfl⟩

theorem Definition.runsSafely_tour : ∃ w t, tour.compile none bareCompiler .empty = (.ok w, t) ∧
    w.RunsSafely (bareSetting 100) [] "" () := by
  obtain ⟨w, t, h⟩ := tour_compiles
  exact ⟨w, t, h, Definition.runsSafely (.empty []) h _ _ _ _⟩

/-- **The active loops are those around the step**, the loops around enclosing calls with them,
whatever was compiled before and whatever the tools do. -/
theorem Definition.loopsExact (hs : s.Reached) (h : d.compile source c s = (.ok w, t))
    (env : Setting W) (overrides : List (String × Value)) (directory : String) (world : W) :
    w.LoopsExact env overrides directory world := by
  have hsound := Definition.compile_sound hs h
  have horderly := Workflow.history_orderly hsound env overrides directory world
  have hexact : ∀ m ∈ w.history env overrides directory world,
      m.progress.loops.map Frame.tag = m.what.around ∧
        ∀ frame ∈ m.progress.loops, ∀ total, frame.total = some total → frame.cursor < total := by
    intro m hm
    obtain ⟨⟨active, hl, htags, hcursor⟩, -⟩ := horderly m hm
    rw [List.append_nil] at hl
    rw [hl]
    exact ⟨htags, hcursor⟩
  refine ⟨w.forget_watch env overrides directory world, fun m hm => (hexact m hm).1,
    fun m hm => (hexact m hm).2, ?_⟩
  intro inLoop b hb scope before hidle
  have hends := Run.block_sound (hsound.has hb) env scope hidle rfl
  exact ⟨hends.1, hends.2.1, hends.2.2.1⟩

theorem Definition.loopsExact_tour : ∃ w t, tour.compile none bareCompiler .empty = (.ok w, t) ∧
    w.LoopsExact (bareSetting 100) [] "" () := by
  obtain ⟨w, t, h⟩ := tour_compiles
  exact ⟨w, t, h, Definition.loopsExact (.empty []) h _ _ _ _⟩

end Results

end Runbook
