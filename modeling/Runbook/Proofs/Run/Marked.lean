import Runbook.Proofs.Run.Leaf

/-!
# Views and marked runs

Two runs in two worlds, of which one does what is seen of the other through a view of its world; and
runs that leave marks in their worlds, which a view may leave out.

* `RunState.seen` is a state with its world seen through a view;
* `Tools.Mirror` says that tools do what is seen of others, `Mirrors` says so of parts of runs;
* `congruent_mirrors` says so of all that runs are built of, and `composesTools_mirrors` of tools;
* `markedAct` and `markedStops` are `act` and `stopsOf` with marks, `Workflow.marked` is the run of
  a workflow with marks;
* `related_markedStops` passes a relation on from what runs are built of, and from marks, to marked
  runs and plain ones;
* `Workflow.run_eq_marked` says that marks that are not seen change nothing else;
* `Workflow.marked_tends` says what holds at the end of a run whose tools and marks keep it.
-/

namespace Runbook

variable {W V : Type}

/-- A state whose world is seen through a view. -/
def RunState.seen (g : W → V) (s : RunState W) : RunState V where
  progress := s.progress
  records := s.records
  events := s.events
  attachments := s.attachments
  world := g s.world

/-- Tools that do what is seen of others through a view of their world. -/
structure Tools.Mirror (g : W → V) (tools' : Tools W) (tools : Tools V) : Prop where
  shell : ∀ command cwd limit w, tools.shell command cwd limit (g w) =
    ((tools'.shell command cwd limit w).1, g (tools'.shell command cwd limit w).2)
  program : ∀ name args cwd limit w, tools.program name args cwd limit (g w) =
    ((tools'.program name args cwd limit w).1, g (tools'.program name args cwd limit w).2)
  session : ∀ command cwd w, tools.session command cwd (g w) =
    ((tools'.session command cwd w).1, g (tools'.session command cwd w).2)
  publish : ∀ store w, tools.publish store (g w) = g (tools'.publish store w)
  adapter : ∀ name call vars w, tools.adapter name call vars (g w) =
    ((tools'.adapter name call vars w).1, g (tools'.adapter name call vars w).2)

namespace Run

open Portion

variable {α β : Type} {g : W → V}

/-- A part of a run that does what is seen of another. -/
def Mirrors (g : W → V) (m' : Run W α) (m : Run V α) : Prop :=
  ∀ s, m (s.seen g) = ((m' s).1, (m' s).2.seen g)

/-! ## Small parts -/

theorem mirrors_pure (a : α) : Mirrors g (pure a) (pure a) := fun _ => rfl

theorem mirrors_throw (h : Halt) : Mirrors g (throw h : Run W α) (throw h) := fun _ => rfl

theorem Mirrors.bind {m' : Run W α} {m : Run V α} {f' : α → Run W β} {f : α → Run V β}
    (hm : Mirrors g m' m) (hf : ∀ a, Mirrors g (f' a) (f a)) :
    Mirrors g (m' >>= f') (m >>= f) := by
  intro s
  rcases h : m' s with ⟨_ | a, t⟩
  · have hs := hm s
    rw [h] at hs
    rw [bind_error h, bind_error hs]
  · have hs := hm s
    rw [h] at hs
    rw [bind_ok h, bind_ok hs]
    exact hf a t

theorem Mirrors.attempt {m' : Run W α} {m : Run V α} (h : Mirrors g m' m) :
    Mirrors g (attempt m') (attempt m) := by
  intro s
  have hs := h s
  rcases hm : m' s with ⟨_ | a, t⟩
  · next halt =>
    rw [hm] at hs
    cases halt <;> simp [Run.attempt, hm, hs]
  · rw [hm] at hs
    simp [Run.attempt, hm, hs]

theorem Mirrors.closing {m' : Run W α} {m : Run V α} (h : Mirrors g m' m)
    (close : Progress → Progress) : Mirrors g (closing m' close) (closing m close) := by
  intro s
  have hs := h s
  simp only [Run.closing, hs]
  rfl

theorem mirrors_reach {f' : W → α × W} {f : V → α × V}
    (h : ∀ w, f (g w) = ((f' w).1, g (f' w).2)) : Mirrors g (reach f') (reach f) := by
  intro s
  have hs : f (s.seen g).world = ((f' s.world).1, g (f' s.world).2) := h s.world
  rw [reach_apply, reach_apply, hs]
  rfl

/-- All that runs are built of does what is seen of it. -/
theorem congruent_mirrors (g : W → V) :
    Congruent fun α (m' : Run W α) (m : Run V α) => Mirrors g m' m where
  pure := mirrors_pure
  bind := Mirrors.bind
  fail _ := mirrors_throw _
  currentVars _ := rfl
  changeVars _ _ := rfl
  emit _ _ := rfl
  reportAll _ _ := rfl
  throw := mirrors_throw
  progress _ := rfl
  update _ _ := rfl
  record _ _ := rfl
  attempt := Mirrors.attempt
  closing close h := h.closing close

/-! ## Tools -/

section Tools

variable {env' : Setting W} {env : Setting V}

theorem mirrors_attach (h : env'.tools.Mirror g env.tools) (template : String) :
    Mirrors g (attach env'.tools.publish template) (attach env.tools.publish template) := by
  intro s
  -- both put the same files in place; after that neither looks at the world
  have hrest (attached : Attached) : Mirrors g
      (do
        reportAll attached.log
        return String.ofList (← ofExcept attached.outcome) : Run W String)
      (do
        reportAll attached.log
        return String.ofList (← ofExcept attached.outcome)) := by
    refine ((congruent_mirrors g).reportAll _).bind fun _ => Mirrors.bind ?_ fun _ => mirrors_pure _
    cases attached.outcome with
    | ok cs => exact mirrors_pure cs
    | error failure => exact mirrors_throw _
  let attached := s.progress.vars.attach s.attachments template
  have hworld := h.publish attached.store s.world
  have hall := hrest attached { s with
    attachments := attached.store
    world := env'.tools.publish attached.store s.world }
  rw [RunState.seen, ← hworld] at hall
  exact hall

theorem mirrors_runSession (h : env'.tools.Mirror g env.tools) (command cwd : String) :
    Mirrors g (runSession env' command cwd) (runSession env command cwd) := by
  refine (mirrors_reach (h.session command cwd)).bind fun r => ?_
  match r with
  | some (.ok outcome) => exact mirrors_pure _
  | some (.error fault) => exact mirrors_throw _
  | none => exact mirrors_throw _

theorem composesTools_mirrors (h : env'.tools.Mirror g env.tools)
    (hconfig : env.config = env'.config) (hdefaults : env.defaults = env'.defaults)
    (hsorter : env.sorter = env'.sorter) :
    ComposesTools env' env fun α (m' : Run W α) (m : Run V α) => Mirrors g m' m where
  toComposes := (congruent_mirrors g).toComposes
  config_eq := hconfig
  defaults_eq := hdefaults
  sorter_eq := hsorter
  shell _ _ _ := mirrors_reach (h.shell _ _ _)
  program _ _ _ _ := mirrors_reach (h.program _ _ _ _)
  session := mirrors_runSession h
  adapter _ _ _ := mirrors_reach (h.adapter _ _ _)
  attach := mirrors_attach h

end Tools

/-!
## Marked runs

A run that leaves a mark in its world whenever the turn of a step comes, inside loops and shared
steps as well.
-/

/-- Leaves the mark of a step. -/
def leaveMark (mark : String → W → W) (path : String) : Run W Unit :=
  modify (fun s => { s with world := mark path s.world })

mutual

/-- Does what an action says, with marks for the steps inside. -/
def markedAct (env : Setting W) (mark : String → W → W) (step : Step Unit) :
    Action → (path : String) → (index : Nat) → Run W Value
  | .foreach loop body, path, index =>
    foreachLoop env.sorter ⟨step.name, index, path⟩ loop
      (visitFrom (markedStops env mark body) path env.fuel 0)
  | .whilst loop body, path, index =>
    whileLoop ⟨step.name, index, path⟩ loop
      (visitFrom (markedStops env mark body) path env.fuel 0)
  | .range loop body, path, index =>
    rangeLoop ⟨step.name, index, path⟩ loop
      (visitFrom (markedStops env mark body) path env.fuel 0)
  | .retry loop body, path, index =>
    retryLoop ⟨step.name, index, path⟩ loop
      (visitFrom (markedStops env mark body) path env.fuel 0)
  | .shared ⟨_, signature, body, _⟩ inputs outputs, path, _ =>
    runShared step path signature inputs outputs
      (visitFrom (markedStops env mark body) path env.fuel 0)
  | action, path, index => act env step action path index

/-- Makes a step ready to be visited, with a mark when its turn comes. -/
def markedStop (env : Setting W) (mark : String → W → W) : Step Action → Stop W
  | ⟨name, condition, onError, outputVar, visible, cwd, model, action⟩ =>
    let step : Step Unit := ⟨name, condition, onError, outputVar, visible, cwd, model, ()⟩
    ⟨name, fun scope index => do
      leaveMark mark (stepPath scope name)
      visit step (markedAct env mark step action) scope index⟩

/-- Makes steps ready to be visited, with marks. -/
def markedStops (env : Setting W) (mark : String → W → W) : List (Step Action) → List (Stop W)
  | [] => []
  | step :: rest => markedStop env mark step :: markedStops env mark rest

end

variable {R : PartRelation W V} {env : Setting W} {env' : Setting V} {mark : String → W → W}

/-- What marked runs and plain ones are built of is related, and marks are left before visits. -/
structure RelatesMarks (R : PartRelation W V) (env : Setting W) (env' : Setting V)
    (mark : String → W → W) : Prop extends Congruent R, ComposesTools env env' R where
  fuel_eq : env'.fuel = env.fuel
  mark : ∀ (path : String) {m : Run W Bool} {m' : Run V Bool}, R Bool m m' →
    R Bool (leaveMark mark path >>= fun _ => m) m'

mutual

/-- An action with marks is related to the action. -/
theorem related_markedAct (h : RelatesMarks R env env' mark) (step : Step Unit) :
    ∀ (action : Action) (path : String) (index : Nat),
      R Value (markedAct env mark step action path index) (act env' step action path index)
  | .bash _ _, _, _ => h.toComposesTools.runBash _ _ _
  | .agent _, _, _ => h.toComposesTools.runAgent _ _
  | .prompt _, _, _ => h.toComposesTools.runPrompt _ _
  | .adapter _ _, _, _ => h.toComposesTools.runAdapter _ _ _ _
  | .set _ _ _, _, _ => h.runSet _ _ _ _
  | .log _ _, _, _ => h.runLog _ _ _
  | .goto _, _, _ | .leave, _, _ | .next, _, _ => h.bind (h.update _) fun _ => h.pure _
  | .foreach loop body, path, _ => by
    rw [markedAct, act, h.sorter_eq]
    exact h.composesLoops.foreachLoop h.panics
      (h.signalled h.steers.takeSignal (related_block h body path)) _ loop
  | .whilst loop body, path, _ =>
    h.composesLoops.whileLoop (h.signalled h.steers.takeSignal (related_block h body path)) _ loop
  | .range loop body, path, _ =>
    h.composesLoops.rangeLoop (h.signalled h.steers.takeSignal (related_block h body path)) _ loop
  | .retry _ body, path, _ =>
    h.composesLoops.retryLoop fun number =>
      h.signalled h.steers.takeSignal (h.steers.tryPass (related_block h body path) _ _ number)
  | .shared ⟨_, _, body, _⟩ _ _, path, _ =>
    h.runShared (fun _ => h.closing _ (related_block h body path)) _ _ _ _ _

theorem related_markedStop (h : RelatesMarks R env env' mark) :
    ∀ (step : Step Action) (scope : String) (index : Nat),
      R Bool ((markedStop env mark step).visit scope index) ((stopOf env' step).visit scope index)
  | ⟨_, _, _, _, _, _, _, action⟩, _, _ =>
    h.mark _ (h.toCongruent.visit (related_markedAct h _ action) _ _ _)

theorem related_markedStops (h : RelatesMarks R env env' mark) :
    ∀ (steps : List (Step Action)),
      RelatedStops R (markedStops env mark steps) (stopsOf env' steps)
  | [] => .nil
  | step :: rest =>
    .cons ⟨by cases step; rfl, related_markedStop h step⟩ (related_markedStops h rest)

/-- A list of steps with marks is related to the list. -/
theorem related_block (h : RelatesMarks R env env' mark) :
    ∀ (steps : List (Step Action)) (scope : String),
      R Unit (visitFrom (markedStops env mark steps) scope env.fuel 0)
        (visitFrom (stopsOf env' steps) scope env'.fuel 0)
  | steps, scope => by
    rw [h.fuel_eq]
    exact h.steers.visitFrom (related_markedStops h steps) scope env.fuel 0

end

/-! ### Without marks -/

/-- A mark that changes nothing. -/
def noMark (_ : String) (w : W) : W := w

/-- A run with marks that change nothing is a plain one. -/
theorem markedAct_noMark (env : Setting W) (step : Step Unit) (action : Action) (path : String)
    (index : Nat) :
    markedAct env noMark step action path index = act env step action path index := by
  have hsame : RelatesMarks (fun α (m m' : Run W α) => m = m') env env noMark := {
    pure := fun _ => rfl
    bind := fun hm hf => by rw [hm, funext hf]
    fail := fun _ => rfl
    currentVars := rfl
    emit := fun _ => rfl
    reportAll := fun _ => rfl
    changeVars := fun _ => rfl
    throw := fun _ => rfl
    progress := rfl
    update := fun _ => rfl
    record := fun _ => rfl
    attempt := fun hm => by rw [hm]
    closing := fun _ hm => by rw [hm]
    config_eq := rfl
    defaults_eq := rfl
    sorter_eq := rfl
    shell := fun _ _ _ => rfl
    program := fun _ _ _ _ => rfl
    session := fun _ _ => rfl
    attach := fun _ => rfl
    adapter := fun _ _ _ => rfl
    fuel_eq := rfl
    mark := fun _ _ _ hm => hm }
  exact related_markedAct hsame step action path index

/-- Actions are related if all that runs are built of is. -/
theorem related_act (h : Congruent R) (ht : ComposesTools env env' R) (hfuel : env'.fuel = env.fuel)
    (step : Step Unit) (action : Action) (path : String) (index : Nat) :
    R Value (act env step action path index) (act env' step action path index) := by
  have hmarks : RelatesMarks R env env' noMark :=
    { h, ht with
      fuel_eq := hfuel
      mark := fun _ _ _ hm => hm }
  rw [← markedAct_noMark]
  exact related_markedAct hmarks step action path index

end Run

/-! ### What is not seen of marks -/

/-- The report on a run of a workflow that came to an end, and the world. -/
def Workflow.reported {W : Type} (w : Workflow) :
    Except Halt Unit × RunState W → Option Report × W
  | (.ok (), s) => (some (w.finished s), s.world)
  | (.error (.failed failure), s) => (some (w.halted failure s), s.world)
  | (.error .outOfFuel, s) => (none, s.world)
  | (.error .panicked, s) => (none, s.world)

/-- Runs a workflow, with marks. -/
def Workflow.marked {W : Type} (w : Workflow) (env : Setting W) (mark : String → W → W)
    (overrides : List (String × Value)) (directory : String) (world : W) :
    Except Halt Unit × RunState W :=
  let env := { env with defaults := w.defaults }
  Run.visitFrom (Run.markedStops env mark w.body) "" env.fuel 0
    (w.start env.config overrides directory world)

section Seen

variable {W V : Type} {g : W → V} {env' : Setting W} {env : Setting V} {mark : String → W → W}

end Seen

/-! ### What holds at every mark -/

/-- Tools that keep `I` true of the world, but for sessions that never end; they leave `J`. -/
structure Tools.Tend {W : Type} (I J : W → Prop) (tools : Tools W) : Prop where
  shell : ∀ command cwd limit w, I w → I (tools.shell command cwd limit w).2
  program : ∀ name args cwd limit w, I w → I (tools.program name args cwd limit w).2
  session : ∀ command cwd w, I w → J (tools.session command cwd w).2 ∧
    ((tools.session command cwd w).1.isSome → I (tools.session command cwd w).2)
  publish : ∀ store w, I w → I (tools.publish store w)
  adapter : ∀ name call vars w, I w → I (tools.adapter name call vars w).2

/-- What is seen of the world and left alone stays true. -/
theorem Tools.Keeps.tend {W H : Type} {g : W → H} {tools : Tools W} (h : tools.Keeps g)
    (p : H → Prop) : tools.Tend (fun w => p (g w)) (fun w => p (g w)) where
  shell command cwd limit w hw := by rwa [h.shell]
  program name args cwd limit w hw := by rwa [h.program]
  session command cwd w hw := by rw [h.session]; exact ⟨hw, fun _ => hw⟩
  publish store w hw := by rwa [h.publish]
  adapter name call vars w hw := by rwa [h.adapter]

namespace Run

open Portion

variable {W α β : Type} {I J : W → Prop}

/-- A part that keeps `I` true of the world, unless it never ends; then it leaves `J`. -/
def Tends (I J : W → Prop) (m : Run W α) : Prop :=
  ∀ s, I s.world → Ends m s (fun r t => J t.world ∧ (r ≠ .error .outOfFuel → I t.world))

theorem Tends.bind {m : Run W α} {f : α → Run W β} (hm : Tends I J m) (hf : ∀ a, Tends I J (f a)) :
    Tends I J (m >>= f) := by
  intro s hs
  refine Ends.bind (hm s hs) ?_ ?_
  · rintro a t ⟨-, ht⟩
    exact hf a t (ht nofun)
  · rintro halt t ⟨hJ, ht⟩
    exact ⟨hJ, fun hne => ht fun h => hne (by cases h; rfl)⟩

theorem Tends.attempt {m : Run W α} (hm : Tends I J m) : Tends I J (attempt m) := by
  intro s hs
  refine (ends_attempt (hm s hs)).mono ?_
  rintro ((failure | _ | _) | (failure | a)) t ⟨hJ, ht⟩
  · exact ⟨hJ, fun _ => ht nofun⟩
  · exact ⟨hJ, fun hne => absurd rfl hne⟩
  · exact ⟨hJ, fun _ => ht nofun⟩
  · exact ⟨hJ, fun _ => ht nofun⟩
  · exact ⟨hJ, fun _ => ht nofun⟩

theorem tends_runSession {env : Setting W} (h : env.tools.Tend I J) (command cwd : String) :
    Tends I J (runSession env command cwd) := by
  intro s hs
  obtain ⟨hJ, hI⟩ := h.session command cwd s.world hs
  rw [Ends, runSession, bind_ok (reach_apply _ s)]
  rcases hr : (env.tools.session command cwd s.world).1 with _ | fault | outcome
  · exact ⟨hJ, fun hne => absurd rfl hne⟩
  · exact ⟨hJ, fun _ => hI (by rw [hr]; rfl)⟩
  · exact ⟨hJ, fun _ => hI (by rw [hr]; rfl)⟩

section Parts

variable (hIJ : ∀ w, I w → J w)
include hIJ

/-- A part that does not change the world. -/
theorem tends_of_world {m : Run W α} (h : ∀ s, (m s).2.world = s.world) : Tends I J m := by
  intro s hs
  rw [Ends, h]
  exact ⟨hIJ _ hs, fun _ => hs⟩

theorem congruent_tends : Congruent (.ofProperty fun α (m : Run W α) => Tends I J m) where
  pure _ := tends_of_world hIJ fun _ => rfl
  bind := Tends.bind
  fail _ := tends_of_world hIJ fun _ => rfl
  currentVars := tends_of_world hIJ fun _ => rfl
  changeVars _ := tends_of_world hIJ fun _ => rfl
  emit _ := tends_of_world hIJ fun _ => rfl
  reportAll _ := tends_of_world hIJ fun _ => rfl
  throw _ := tends_of_world hIJ fun _ => rfl
  progress := tends_of_world hIJ fun _ => rfl
  update _ := tends_of_world hIJ fun _ => rfl
  record _ := tends_of_world hIJ fun _ => rfl
  attempt := Tends.attempt
  closing _ hm := hm

theorem tends_reach {f : W → α × W} (h : ∀ w, I w → I (f w).2) : Tends I J (reach f) := by
  intro s hs
  rw [Ends, reach_apply]
  exact ⟨hIJ _ (h _ hs), fun _ => h _ hs⟩

variable {env : Setting W} (h : env.tools.Tend I J)
include h

theorem tends_attach (template : String) : Tends I J (attach env.tools.publish template) := by
  intro s hs
  have hrest (attached : Attached) : Tends I J
      (do
        reportAll attached.log
        return String.ofList (← ofExcept attached.outcome) : Run W String) := by
    refine Tends.bind (tends_of_world hIJ fun _ => rfl) fun _ => Tends.bind ?_
      fun _ => tends_of_world hIJ fun _ => rfl
    cases attached.outcome <;> exact tends_of_world hIJ fun _ => rfl
  let attached := s.progress.vars.attach s.attachments template
  exact hrest attached { s with
    attachments := attached.store
    world := env.tools.publish attached.store s.world } (h.publish _ _ hs)

theorem composesTools_tends :
    ComposesTools env env (.ofProperty fun α (m : Run W α) => Tends I J m) :=
  { congruent_tends hIJ with
    config_eq := rfl
    defaults_eq := rfl
    sorter_eq := rfl
    shell := fun _ _ _ => tends_reach hIJ (h.shell _ _ _)
    program := fun _ _ _ _ => tends_reach hIJ (h.program _ _ _ _)
    session := tends_runSession h
    adapter := fun _ _ _ => tends_reach hIJ (h.adapter _ _ _)
    attach := tends_attach hIJ h }

end Parts

end Run

end Runbook
