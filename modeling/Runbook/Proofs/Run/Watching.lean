import Runbook.Proofs.Run.Frames
import Runbook.Proofs.Run.History
import Runbook.Proofs.Run.Marked

/-!
# Watching changes nothing

A run that is watched ends as the run does, and leaves the same state but for its history.

* `Shadows` says that a part of a watched run does what a part of a run does: it is the case of
  `Mirrors` in which the history is what is not seen;
* `congruent_shadows` says so of all that runs are built of, and `composesTools_shadows` of tools;
* `shadows_watchedAct` says it of every step, and `Workflow.forget_watch` of whole runs.
-/

namespace Runbook

open Portion

namespace Run

variable {W α β : Type}

/-- A part of a watched run that does what a part of a run does. -/
def Shadows (watched : Run (W × History) α) (part : Run W α) : Prop :=
  ∀ s, part s.forget = ((watched s).1, (watched s).2.forget)

/-! ## Small parts -/

theorem shadows_pure (a : α) : Shadows (pure a : Run (W × History) α) (pure a) := mirrors_pure a

theorem shadows_throw (h : Halt) : Shadows (throw h : Run (W × History) α) (throw h) :=
  mirrors_throw h

theorem Shadows.bind {m' : Run (W × History) α} {m : Run W α} {f' : α → Run (W × History) β}
    {f : α → Run W β} (hm : Shadows m' m) (hf : ∀ a, Shadows (f' a) (f a)) :
    Shadows (m' >>= f') (m >>= f) := Mirrors.bind hm hf

/-- What is noted is seen in the history alone. -/
theorem Shadows.note {m' : Run (W × History) α} {m : Run W α} (h : Shadows m' m)
    (what : Happening) : Shadows (Run.note what >>= fun _ => m') m :=
  fun s => h { s with world := (s.world.1, ⟨what, s.progress⟩ :: s.world.2) }

theorem Shadows.closing {m' : Run (W × History) α} {m : Run W α} (h : Shadows m' m)
    (close : Progress → Progress) : Shadows (closing m' close) (closing m close) :=
  Mirrors.closing h close

/-- All that runs are built of does the same whether it is watched or not. -/
theorem congruent_shadows :
    Congruent fun α (m' : Run (W × History) α) (m : Run W α) => Shadows m' m :=
  congruent_mirrors Prod.fst

theorem Shadows.signalled {m' : Run (W × History) α} {m : Run W α} (h : Shadows m' m) :
    Shadows (Run.signalled m') (Run.signalled m) :=
  congruent_shadows.signalled congruent_shadows.steers.takeSignal h

/-! ## Tools -/

theorem mirror_beside (tools : Tools W) (H : Type) : (tools.beside H).Mirror Prod.fst tools where
  shell _ _ _ _ := rfl
  program _ _ _ _ _ := rfl
  session _ _ _ := rfl
  publish _ _ := rfl
  adapter _ _ _ _ := rfl

theorem keeps_beside (tools : Tools W) (H : Type) : (tools.beside H).Keeps Prod.snd where
  shell _ _ _ _ := rfl
  program _ _ _ _ _ := rfl
  session _ _ _ := rfl
  publish _ _ := rfl
  adapter _ _ _ _ := rfl

theorem composesTools_shadows (env : Setting W) :
    ComposesTools env.watched env fun α (m' : Run (W × History) α) (m : Run W α) =>
      Shadows m' m :=
  composesTools_mirrors (mirror_beside env.tools History) rfl rfl rfl

/-! ## Visits -/

/-- What a part leaves of the loops, it leaves of them in a world of which more is seen. -/
theorem Mirrors.keepsLoops {V : Type} {g : W → V} {m' : Run W α} {m : Run V α}
    (h : Mirrors g m' m) (hm : KeepsLoops m) : KeepsLoops m' := by
  intro s
  have hs := hm.view (s.seen g)
  rw [h s] at hs
  exact ⟨hs, fun _ _ => trivial⟩

theorem Shadows.keepsLoops {m' : Run (W × History) α} {m : Run W α} (h : Shadows m' m)
    (hm : KeepsLoops m) : KeepsLoops m' :=
  Mirrors.keepsLoops h hm

/-- Stops that are visited alike, watched or not. -/
def ShadowStops : List (Stop (W × History)) → List (Stop W) → Prop :=
  List.Forall₂ fun stop' stop => stop'.name = stop.name ∧
    ∀ scope index, Shadows (stop'.visit scope index) (stop.visit scope index)

variable {stops' : List (Stop (W × History))} {stops : List (Stop W)}

theorem shadows_leaveFrom (h : ShadowStops stops' stops) (scope : String) (fuel : Nat) :
    ∀ index, Shadows (leaveFrom stops' scope fuel index) (leaveFrom stops scope fuel index) := by
  induction fuel with
  | zero =>
    intro index
    rcases RelatedStops.getElem? h index with ⟨hn', hn⟩ | ⟨stop', stop, hs', hs, -, -⟩
    · rw [leaveFrom, leaveFrom, hn', hn]
      exact shadows_pure _
    · rw [leaveFrom, leaveFrom, hs', hs]
      exact shadows_throw _
  | succ fuel ih =>
    intro index
    rcases RelatedStops.getElem? h index with ⟨hn', hn⟩ | ⟨stop', stop, hs', hs, hname, hvisit⟩
    · rw [leaveFrom, leaveFrom, hn', hn]
      exact shadows_pure _
    · rw [leaveFrom, leaveFrom, hs', hs]
      refine (hvisit scope index).bind fun ran => relation_ite ?_ (ih _)
      rw [hname]
      refine (congruent_shadows.steers.nextIndex h _ _ _).bind fun next => ?_
      match next with
      | some j => exact ih j
      | none => exact shadows_pure _

/-- Going from visit to visit is going until the list is left. -/
theorem visitFrom_eq_leaveFrom (stops : List (Stop W)) (scope : String) (fuel : Nat) :
    ∀ index, visitFrom stops scope fuel index =
      (leaveFrom stops scope fuel index >>= fun _ => pure ()) := by
  induction fuel with
  | zero =>
    intro index
    rw [visitFrom, leaveFrom]
    cases stops[index]? <;> rfl
  | succ fuel ih =>
    intro index
    rw [visitFrom, leaveFrom]
    cases stops[index]? with
    | none => rfl
    | some stop =>
      dsimp only
      rw [bind_assoc]
      refine bind_congr fun ran => ?_
      cases ran with
      | false => exact ih (index + 1)
      | true =>
        rw [if_pos rfl, if_pos rfl, bind_assoc]
        refine bind_congr fun next => ?_
        cases next with
        | none => rfl
        | some j => exact ih j

theorem shadows_watchList (h : ShadowStops stops' stops) (inLoop : Bool) (around : List LoopTag)
    (scope : String) (fuel : Nat) :
    Shadows (watchList inLoop around stops' scope fuel) (visitFrom stops scope fuel 0) := by
  rw [visitFrom_eq_leaveFrom]
  refine (shadows_leaveFrom h scope fuel 0).bind fun index => ?_
  exact (shadows_pure ()).note _

theorem shadows_watchDispatch {action' : Run (W × History) Value} {action : Run W Value}
    (h : Shadows action' action) (place : Place) :
    Shadows (watchDispatch place action') action := by
  refine Shadows.note ?_ _
  intro s
  have hs := h s
  rcases hm : action' s with ⟨_ | output, t⟩
  · next halt =>
    rw [hm] at hs
    cases halt with
    | failed failure =>
      have ha : attempt action' s = (.ok (.error failure), t) := by simp [attempt, hm]
      rw [bind_ok ha, hs]
      rfl
    | outOfFuel =>
      have ha : attempt action' s = (.error .outOfFuel, t) := by simp [attempt, hm]
      rw [bind_error ha, hs]
    | panicked =>
      have ha : attempt action' s = (.error .panicked, t) := by simp [attempt, hm]
      rw [bind_error ha, hs]
  · rw [hm] at hs
    have ha : attempt action' s = (.ok (.ok output), t) := by simp [attempt, hm]
    rw [bind_ok ha, hs]
    rfl

mutual

/-- A step does the same whether it is watched or not. -/
theorem shadows_watchedAct (env : Setting W) (around : List LoopTag) (step : Step Unit) :
    ∀ (action : Action) (path : String) (index : Nat),
      Shadows (watchedAct env around step action path index) (act env step action path index)
  | .bash _ _, _, _ => (composesTools_shadows env).runBash _ _ _
  | .agent _, _, _ => (composesTools_shadows env).runAgent _ _
  | .prompt _, _, _ => (composesTools_shadows env).runPrompt _ _
  | .adapter _ _, _, _ => (composesTools_shadows env).runAdapter _ _ _ _
  | .set _ _ _, _, _ => congruent_shadows.runSet _ _ _ _
  | .log _ _, _, _ => congruent_shadows.runLog _ _ _
  | .goto _, _, _ | .leave, _, _ | .next, _, _ =>
    (congruent_shadows.update _).bind fun _ => shadows_pure _
  | .foreach loop body, path, _ => by
    rw [watchedAct, act]
    exact congruent_shadows.composesLoops.foreachLoop congruent_shadows.panics
      (shadows_watchList (shadowStops_watchedStops env _ body) _ _ path _).signalled _ loop
  | .whilst loop body, path, _ =>
    congruent_shadows.composesLoops.whileLoop
      (shadows_watchList (shadowStops_watchedStops env _ body) _ _ path _).signalled _ loop
  | .range loop body, path, _ =>
    congruent_shadows.composesLoops.rangeLoop
      (shadows_watchList (shadowStops_watchedStops env _ body) _ _ path _).signalled _ loop
  | .retry _ body, path, _ =>
    congruent_shadows.composesLoops.retryLoop fun number =>
      Shadows.signalled (congruent_shadows.steers.tryPass
        (shadows_watchList (shadowStops_watchedStops env _ body) _ _ path _) _ _ number)
  | .shared ⟨_, _, body, _⟩ _ _, path, _ =>
    congruent_shadows.runShared (fun _ =>
      (shadows_watchList (shadowStops_watchedStops env around body) _ _ path _).closing _) _ _ _ _ _

theorem shadows_watchedStop (env : Setting W) (around : List LoopTag) :
    ∀ (step : Step Action) (scope : String) (index : Nat),
      Shadows ((watchedStop env around step).visit scope index)
        ((stopOf env step).visit scope index)
  | ⟨_, _, _, _, _, _, _, action⟩, _, _ =>
    Shadows.note (congruent_shadows.visit (fun path index =>
      shadows_watchDispatch (shadows_watchedAct env around _ action path index) _) _ _ _) _

theorem shadowStops_watchedStops (env : Setting W) (around : List LoopTag) :
    ∀ (steps : List (Step Action)), ShadowStops (watchedStops env around steps) (stopsOf env steps)
  | [] => .nil
  | step :: rest =>
    .cons ⟨by cases step; rfl, shadows_watchedStop env around step⟩
      (shadowStops_watchedStops env around rest)

end

end Run

/-- **Watching changes nothing.**  A workflow that is watched comes to the same end, and leaves the
same state but for its history. -/
theorem Workflow.forget_watch {W : Type} (w : Workflow) (env : Setting W)
    (overrides : List (String × Value)) (directory : String) (world : W) :
    Run.block { env with defaults := w.defaults } w.body ""
        (w.start env.config overrides directory world) =
      ((w.watch env overrides directory world).1,
        (w.watch env overrides directory world).2.forget) :=
  Run.shadows_watchList (Run.shadowStops_watchedStops { env with defaults := w.defaults } [] w.body)
    false [] "" env.fuel ((w.start env.config overrides directory world).beside [])

end Runbook
