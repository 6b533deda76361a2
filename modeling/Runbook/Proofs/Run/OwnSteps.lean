import Runbook.Proofs.Run.Marked
import Runbook.Proofs.Run.Watching

/-!
# The own steps of a list

A run of a list of steps with an account of its own steps: those of the list itself and those inside
its loops.  The steps of the shared steps that it calls are not among them; an account of all steps
has these as well, and so on all the way down.

* `OwnMoment` is a point in the visit of an own step, with the variables as they are there;
* `ownAct` and `ownBlock` are `act` and `block` with such an account beside the world;
* `related_ownBlock` passes a relation on from what runs are built of, and from what is noted, to
  runs with an account and plain ones;
* `mirrors_ownBlock` says that the account changes nothing else;
* `deepBlock`, `related_deepBlock` and `mirrors_deepBlock` are the same for all steps.
-/

namespace Runbook

/-- How far the visit of a step has come. -/
inductive Phase where
  /-- The turn of the step has come. -/
  | up
  /-- The step is dispatched. -/
  | dispatched
  /-- What the step does has come to its end. -/
  | ended (result : Except Failure Value)

/-- A point in the visit of an own step. -/
structure OwnMoment where
  /-- How far the visit has come. -/
  phase : Phase
  /-- The step. -/
  step : Step Action
  /-- The variables that the own loops around the step bind. -/
  around : List String
  /-- The variables as they are. -/
  vars : Variables

/-- What happened to the own steps of a list, the last moment first. -/
abbrev OwnHistory := List OwnMoment

/-- A setting with room for something beside the world. -/
def Setting.paired {W : Type} (env : Setting W) (H : Type) : Setting (W × H) where
  config := env.config
  defaults := env.defaults
  tools := env.tools.beside H
  sorter := env.sorter
  fuel := env.fuel

/-- A state with something beside its world. -/
def RunState.paired {W H : Type} (s : RunState W) (h : H) : RunState (W × H) where
  progress := s.progress
  records := s.records
  events := s.events
  attachments := s.attachments
  world := (s.world, h)

namespace Run

variable {W V α : Type}

/-- A state in which it is noted how far the visit of an own step has come. -/
def ownNoted (phase : Phase) (step : Step Action) (around : List String)
    (s : RunState (W × OwnHistory)) : RunState (W × OwnHistory) :=
  { s with world := (s.world.1, ⟨phase, step, around, s.progress.vars⟩ :: s.world.2) }

/-- Notes how far the visit of an own step has come. -/
def noteOwn (phase : Phase) (step : Step Action) (around : List String) :
    Run (W × OwnHistory) Unit :=
  modify (ownNoted phase step around)

/-- Dispatches an own step, and notes how it ends. -/
def dispatchOwn (step : Step Action) (around : List String) (part : Run (W × OwnHistory) Value) :
    Run (W × OwnHistory) Value := do
  noteOwn .dispatched step around
  let result ← attempt part
  noteOwn (.ended result) step around
  ofExcept result

mutual

/-- Does what an action says, with an account of the own steps; `around` are the variables that the
loops around bind. -/
def ownAct (env : Setting W) (around : List String) (step : Step Unit) :
    Action → (path : String) → (index : Nat) → Run (W × OwnHistory) Value
  | .foreach loop body, path, index =>
    foreachLoop env.sorter ⟨step.name, index, path⟩ loop
      (visitFrom (ownStops env ([loop.itemVar, loop.indexVar] ++ around) body) path env.fuel 0)
  | .whilst loop body, path, index =>
    whileLoop ⟨step.name, index, path⟩ loop
      (visitFrom (ownStops env ([loop.counterVar] ++ around) body) path env.fuel 0)
  | .range loop body, path, index =>
    rangeLoop ⟨step.name, index, path⟩ loop
      (visitFrom (ownStops env ([loop.var] ++ around) body) path env.fuel 0)
  | .retry loop body, path, index =>
    retryLoop ⟨step.name, index, path⟩ loop
      (visitFrom (ownStops env ([loop.attemptVar] ++ around) body) path env.fuel 0)
  | action, path, index => act (env.paired OwnHistory) step action path index

/-- Makes an own step ready to be visited. -/
def ownStop (env : Setting W) (around : List String) : Step Action → Stop (W × OwnHistory)
  | ⟨name, condition, onError, outputVar, visible, cwd, model, action⟩ =>
    let step : Step Unit := ⟨name, condition, onError, outputVar, visible, cwd, model, ()⟩
    let own : Step Action := ⟨name, condition, onError, outputVar, visible, cwd, model, action⟩
    ⟨name, fun scope index => do
      noteOwn .up own around
      visit step (fun path index =>
        dispatchOwn own around (ownAct env around step action path index)) scope index⟩

/-- Makes own steps ready to be visited. -/
def ownStops (env : Setting W) (around : List String) :
    List (Step Action) → List (Stop (W × OwnHistory))
  | [] => []
  | step :: rest => ownStop env around step :: ownStops env around rest

end

/-- Runs the steps of a list with an account of them. -/
def ownBlock (env : Setting W) (around : List String) (steps : Block) (scope : String) :
    Run (W × OwnHistory) Unit :=
  visitFrom (ownStops env around steps) scope env.fuel 0

/-- What a dispatched step comes to, by how it ended. -/
theorem dispatchOwn_apply (step : Step Action) (around : List String)
    (part : Run (W × OwnHistory) Value) (s : RunState (W × OwnHistory)) :
    dispatchOwn step around part s =
      match part (ownNoted .dispatched step around s) with
      | (.ok v, t) => (.ok v, ownNoted (.ended (.ok v)) step around t)
      | (.error (.failed failure), t) =>
        (.error (.failed failure), ownNoted (.ended (.error failure)) step around t)
      | (.error .outOfFuel, t) => (.error .outOfFuel, t)
      | (.error .panicked, t) => (.error .panicked, t) := by
  show (attempt part >>= fun result => noteOwn (.ended result) step around >>= fun _ =>
    ofExcept result) (ownNoted .dispatched step around s) = _
  rw [Portion.bind_apply, attempt]
  rcases part (ownNoted .dispatched step around s) with ⟨(failure | _ | _) | v, t⟩ <;> rfl

/-! ## What is passed on to runs with an account -/

variable {R : PartRelation (W × OwnHistory) V} {env : Setting W} {env' : Setting V}
  {P : List String → Prop}

/-- What runs with an account and plain ones are built of is related, and moments are noted, within
loops whose variables satisfy `P`. -/
structure RelatesOwn (R : PartRelation (W × OwnHistory) V) (P : List String → Prop)
    (env : Setting W) (env' : Setting V) : Prop
    extends Congruent R, ComposesTools (env.paired OwnHistory) env' R where
  fuel_eq : env'.fuel = env.fuel
  inside : ∀ names {around}, P around → P (names ++ around)
  note : ∀ {α : Type} (phase : Phase) (step : Step Action) {around : List String}
    {m : Run (W × OwnHistory) α} {m' : Run V α}, P around → R α m m' →
      R α (noteOwn phase step around >>= fun _ => m) m'

/-- A failure that is a result for a while is a failure again. -/
theorem attempt_ofExcept (m : Run W α) : (attempt m >>= ofExcept) = m := by
  funext s
  rcases hm : m s with ⟨(failure | _ | _) | a, t⟩
  · exact Portion.bind_ok (show attempt m s = (.ok (.error failure), t) by rw [attempt, hm])
  · exact Portion.bind_error (show attempt m s = (.error .outOfFuel, t) by rw [attempt, hm])
  · exact Portion.bind_error (show attempt m s = (.error .panicked, t) by rw [attempt, hm])
  · exact Portion.bind_ok (show attempt m s = (.ok (.ok a), t) by rw [attempt, hm])

theorem related_dispatchOwn (h : RelatesOwn R P env env') {around : List String}
    (hP : P around) (step : Step Action) {part : Run (W × OwnHistory) Value} {part' : Run V Value}
    (hp : R Value part part') : R Value (dispatchOwn step around part) part' := by
  rw [← attempt_ofExcept part']
  refine h.note _ _ hP (h.bind (h.attempt hp) fun result => h.note _ _ hP ?_)
  match result with
  | .ok a => exact h.pure a
  | .error failure => exact h.throw _

mutual

/-- An action with an account of own steps is related to the action. -/
theorem related_ownAct (h : RelatesOwn R P env env') (step : Step Unit) :
    ∀ (action : Action) {around : List String}, P around → ∀ (path : String) (index : Nat),
      R Value (ownAct env around step action path index) (act env' step action path index)
  | .foreach loop body, _, hP, path, _ => by
    rw [ownAct, act, h.sorter_eq]
    exact h.composesLoops.foreachLoop h.panics
      (h.signalled h.steers.takeSignal (related_ownBlock h body (h.inside _ hP) path)) _ loop
  | .whilst loop body, _, hP, path, _ =>
    h.composesLoops.whileLoop
      (h.signalled h.steers.takeSignal (related_ownBlock h body (h.inside _ hP) path)) _ loop
  | .range loop body, _, hP, path, _ =>
    h.composesLoops.rangeLoop
      (h.signalled h.steers.takeSignal (related_ownBlock h body (h.inside _ hP) path)) _ loop
  | .retry _ body, _, hP, path, _ =>
    h.composesLoops.retryLoop fun number => h.signalled h.steers.takeSignal
      (h.steers.tryPass (related_ownBlock h body (h.inside _ hP) path) _ _ number)
  | .bash _ _, _, _, _, _ | .agent _, _, _, _, _ | .prompt _, _, _, _, _ | .set _ _ _, _, _, _, _
  | .log _ _, _, _, _, _ | .goto _, _, _, _, _ | .leave, _, _, _, _ | .next, _, _, _, _
  | .shared _ _ _, _, _, _, _ | .adapter _ _, _, _, _, _ =>
    related_act h.toCongruent h.toComposesTools h.fuel_eq step _ _ _

theorem related_ownStop (h : RelatesOwn R P env env') :
    ∀ (step : Step Action) {around : List String}, P around → ∀ (scope : String) (index : Nat),
      R Bool ((ownStop env around step).visit scope index) ((stopOf env' step).visit scope index)
  | ⟨_, _, _, _, _, _, _, action⟩, _, hP, _, _ =>
    h.note _ _ hP (h.toCongruent.visit (fun path index =>
      related_dispatchOwn h hP _ (related_ownAct h _ action hP path index)) _ _ _)

theorem related_ownStops (h : RelatesOwn R P env env') :
    ∀ (steps : List (Step Action)) {around : List String}, P around →
      RelatedStops R (ownStops env around steps) (stopsOf env' steps)
  | [], _, _ => .nil
  | step :: rest, _, hP =>
    .cons ⟨by cases step; rfl, related_ownStop h step hP⟩ (related_ownStops h rest hP)

/-- A list of steps with an account of them is related to the list. -/
theorem related_ownBlock (h : RelatesOwn R P env env') :
    ∀ (steps : List (Step Action)) {around : List String}, P around → ∀ (scope : String),
      R Unit (ownBlock env around steps scope) (block env' steps scope)
  | steps, _, hP, scope => by
    rw [block, h.fuel_eq]
    exact h.steers.visitFrom (related_ownStops h steps hP) scope env.fuel 0

end

/-! ## The account changes nothing else -/

theorem relatesOwn_mirrors (env : Setting W) :
    RelatesOwn (fun α (m' : Run (W × OwnHistory) α) (m : Run W α) => Mirrors Prod.fst m' m)
      (fun _ => True) env env :=
  have htools : (env.paired OwnHistory).tools.Mirror Prod.fst env.tools :=
    mirror_beside env.tools OwnHistory
  { congruent_mirrors Prod.fst, composesTools_mirrors htools rfl rfl rfl with
    fuel_eq := rfl
    inside := fun _ _ _ => trivial
    note := fun phase step around _ _ _ hm s => hm (ownNoted phase step around s) }

/-- A list of steps does the same whether there is an account of it or not. -/
theorem mirrors_ownBlock (env : Setting W) (around : List String) (steps : Block)
    (scope : String) :
    Mirrors Prod.fst (ownBlock env around steps scope) (block env steps scope) :=
  related_ownBlock (relatesOwn_mirrors env) steps trivial scope

/-- A list of steps leaves the active loops as it found them. -/
theorem keepsLoops_ownBlock (env : Setting W) (around : List String) (steps : Block)
    (scope : String) : KeepsLoops (ownBlock env around steps scope) :=
  Mirrors.keepsLoops (mirrors_ownBlock env around steps scope)
    (keepsLoops_visitFrom (keepsLoops_stopsOf env steps) scope env.fuel 0)

/-! ## Accounts of all steps -/

mutual

/-- Does what an action says, with an account of all steps; `around` are the variables that the
loops around bind, those around a call with them. -/
def deepAct (env : Setting W) (around : List String) (step : Step Unit) :
    Action → (path : String) → (index : Nat) → Run (W × OwnHistory) Value
  | .foreach loop body, path, index =>
    foreachLoop env.sorter ⟨step.name, index, path⟩ loop
      (visitFrom (deepStops env ([loop.itemVar, loop.indexVar] ++ around) body) path env.fuel 0)
  | .whilst loop body, path, index =>
    whileLoop ⟨step.name, index, path⟩ loop
      (visitFrom (deepStops env ([loop.counterVar] ++ around) body) path env.fuel 0)
  | .range loop body, path, index =>
    rangeLoop ⟨step.name, index, path⟩ loop
      (visitFrom (deepStops env ([loop.var] ++ around) body) path env.fuel 0)
  | .retry loop body, path, index =>
    retryLoop ⟨step.name, index, path⟩ loop
      (visitFrom (deepStops env ([loop.attemptVar] ++ around) body) path env.fuel 0)
  | .shared ⟨_, signature, body, _⟩ inputs outputs, path, _ =>
    runShared step path signature inputs outputs
      (visitFrom (deepStops env around body) path env.fuel 0)
  | action, path, index => act (env.paired OwnHistory) step action path index

/-- Makes a step ready to be visited. -/
def deepStop (env : Setting W) (around : List String) : Step Action → Stop (W × OwnHistory)
  | ⟨name, condition, onError, outputVar, visible, cwd, model, action⟩ =>
    let step : Step Unit := ⟨name, condition, onError, outputVar, visible, cwd, model, ()⟩
    let own : Step Action := ⟨name, condition, onError, outputVar, visible, cwd, model, action⟩
    ⟨name, fun scope index => do
      noteOwn .up own around
      visit step (fun path index =>
        dispatchOwn own around (deepAct env around step action path index)) scope index⟩

/-- Makes steps ready to be visited. -/
def deepStops (env : Setting W) (around : List String) :
    List (Step Action) → List (Stop (W × OwnHistory))
  | [] => []
  | step :: rest => deepStop env around step :: deepStops env around rest

end

/-- Runs the steps of a list with an account of all steps. -/
def deepBlock (env : Setting W) (around : List String) (steps : Block) (scope : String) :
    Run (W × OwnHistory) Unit :=
  visitFrom (deepStops env around steps) scope env.fuel 0

mutual

/-- An action with an account of all steps is related to the action. -/
theorem related_deepAct (h : RelatesOwn R P env env') (step : Step Unit) :
    ∀ (action : Action) {around : List String}, P around → ∀ (path : String) (index : Nat),
      R Value (deepAct env around step action path index) (act env' step action path index)
  | .foreach loop body, _, hP, path, _ => by
    rw [deepAct, act, h.sorter_eq]
    exact h.composesLoops.foreachLoop h.panics
      (h.signalled h.steers.takeSignal (related_deepBlock h body (h.inside _ hP) path)) _ loop
  | .whilst loop body, _, hP, path, _ =>
    h.composesLoops.whileLoop
      (h.signalled h.steers.takeSignal (related_deepBlock h body (h.inside _ hP) path)) _ loop
  | .range loop body, _, hP, path, _ =>
    h.composesLoops.rangeLoop
      (h.signalled h.steers.takeSignal (related_deepBlock h body (h.inside _ hP) path)) _ loop
  | .retry _ body, _, hP, path, _ =>
    h.composesLoops.retryLoop fun number => h.signalled h.steers.takeSignal
      (h.steers.tryPass (related_deepBlock h body (h.inside _ hP) path) _ _ number)
  | .shared ⟨_, _, body, _⟩ _ _, _, hP, path, _ =>
    h.runShared (fun _ => h.closing _ (related_deepBlock h body hP path)) _ _ _ _ _
  | .bash _ _, _, _, _, _ | .agent _, _, _, _, _ | .prompt _, _, _, _, _ | .set _ _ _, _, _, _, _
  | .log _ _, _, _, _, _ | .goto _, _, _, _, _ | .leave, _, _, _, _ | .next, _, _, _, _
  | .adapter _ _, _, _, _, _ =>
    related_act h.toCongruent h.toComposesTools h.fuel_eq step _ _ _

theorem related_deepStop (h : RelatesOwn R P env env') :
    ∀ (step : Step Action) {around : List String}, P around → ∀ (scope : String) (index : Nat),
      R Bool ((deepStop env around step).visit scope index) ((stopOf env' step).visit scope index)
  | ⟨_, _, _, _, _, _, _, action⟩, _, hP, _, _ =>
    h.note _ _ hP (h.toCongruent.visit (fun path index =>
      related_dispatchOwn h hP _ (related_deepAct h _ action hP path index)) _ _ _)

theorem related_deepStops (h : RelatesOwn R P env env') :
    ∀ (steps : List (Step Action)) {around : List String}, P around →
      RelatedStops R (deepStops env around steps) (stopsOf env' steps)
  | [], _, _ => .nil
  | step :: rest, _, hP =>
    .cons ⟨by cases step; rfl, related_deepStop h step hP⟩ (related_deepStops h rest hP)

/-- A list of steps with an account of all steps is related to the list. -/
theorem related_deepBlock (h : RelatesOwn R P env env') :
    ∀ (steps : List (Step Action)) {around : List String}, P around → ∀ (scope : String),
      R Unit (deepBlock env around steps scope) (block env' steps scope)
  | steps, _, hP, scope => by
    rw [block, h.fuel_eq]
    exact h.steers.visitFrom (related_deepStops h steps hP) scope env.fuel 0

end

/-- A list of steps does the same whether there is an account of all steps or not. -/
theorem mirrors_deepBlock (env : Setting W) (around : List String) (steps : Block)
    (scope : String) :
    Mirrors Prod.fst (deepBlock env around steps scope) (block env steps scope) :=
  related_deepBlock (relatesOwn_mirrors env) steps trivial scope

/-- A list of steps leaves the active loops as it found them. -/
theorem keepsLoops_deepBlock (env : Setting W) (around : List String) (steps : Block)
    (scope : String) : KeepsLoops (deepBlock env around steps scope) :=
  Mirrors.keepsLoops (mirrors_deepBlock env around steps scope)
    (keepsLoops_visitFrom (keepsLoops_stopsOf env steps) scope env.fuel 0)

end Run

end Runbook
