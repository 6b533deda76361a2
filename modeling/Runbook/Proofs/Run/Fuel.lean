import Runbook.Proofs.Run.Leaf

/-!
# More fuel

A run that does not run out of fuel is the same with more of it.

* `GoesOn` says that a part does what another does, unless that one runs out of fuel;
* `congruent_goesOn` says that this is passed on by all that runs are built of, and `goesOn_act`
  says it of every step;
* `block_of_fuel_le` is the result for lists of steps.
-/

namespace Runbook

open Portion

namespace Run

variable {W α β : Type}

/-- The second part does what the first does, unless the first runs out of fuel. -/
def GoesOn (m m' : Run W α) : Prop := ∀ s, (m s).1 = .error .outOfFuel ∨ m' s = m s

theorem GoesOn.refl (m : Run W α) : GoesOn m m := fun _ => .inr rfl

theorem GoesOn.bind {m m' : Run W α} {f f' : α → Run W β} (hm : GoesOn m m')
    (hf : ∀ a, GoesOn (f a) (f' a)) : GoesOn (m >>= f) (m' >>= f') := by
  intro s
  rcases h : m s with ⟨e | a, t⟩ <;> rcases hm s with hout | heq
  · rw [h] at hout
    cases hout
    exact .inl (by rw [bind_error h])
  · rw [bind_error h, bind_error (heq.trans h)]
    exact .inr rfl
  · rw [h] at hout
    cases hout
  · rw [bind_ok h, bind_ok (heq.trans h)]
    exact hf a t

theorem GoesOn.attempt {m m' : Run W α} (h : GoesOn m m') : GoesOn (attempt m) (attempt m') := by
  intro s
  rcases h s with hout | heq
  · rcases hm : m s with ⟨r, t⟩
    rw [hm] at hout
    obtain rfl : r = .error .outOfFuel := hout
    exact .inl (by simp only [Run.attempt, hm])
  · exact .inr (by simp only [Run.attempt, heq])

theorem GoesOn.closing {m m' : Run W α} (h : GoesOn m m') (close : Progress → Progress) :
    GoesOn (closing m close) (closing m' close) := by
  intro s
  rcases h s with hout | heq
  · exact .inl hout
  · exact .inr (by simp only [Run.closing, heq])

/-- All that runs are built of goes on where it ran out of fuel. -/
theorem congruent_goesOn : Congruent fun α (m m' : Run W α) => GoesOn m m' where
  pure a := .refl (pure a)
  bind := GoesOn.bind
  fail _ := .refl _
  currentVars := .refl _
  changeVars _ := .refl _
  emit _ := .refl _
  reportAll _ := .refl _
  throw _ := .refl _
  progress := .refl _
  update _ := .refl _
  record _ := .refl _
  attempt := GoesOn.attempt
  closing close h := h.closing close

theorem GoesOn.signalled {m m' : Run W α} (h : GoesOn m m') :
    GoesOn (Run.signalled m) (Run.signalled m') :=
  congruent_goesOn.signalled (.refl _) h

/-- Settings that differ in their fuel alone, of which the second has more. -/
structure MoreFuel (env env' : Setting W) : Prop where
  config_eq : env'.config = env.config
  defaults_eq : env'.defaults = env.defaults
  tools_eq : env'.tools = env.tools
  sorter_eq : env'.sorter = env.sorter
  fuel_le : env.fuel ≤ env'.fuel

theorem MoreFuel.composesTools {env env' : Setting W} (h : MoreFuel env env') :
    ComposesTools env env' fun α (part part' : Run W α) => GoesOn part part' where
  toComposes := congruent_goesOn.toComposes
  config_eq := h.config_eq
  defaults_eq := h.defaults_eq
  sorter_eq := h.sorter_eq
  shell _ _ _ := by rw [h.tools_eq]; exact .refl _
  program _ _ _ _ := by rw [h.tools_eq]; exact .refl _
  session _ _ := by
    unfold runSession
    rw [h.tools_eq]
    exact .refl _
  adapter _ _ _ := by rw [h.tools_eq]; exact .refl _
  attach _ := by rw [h.tools_eq]; exact .refl _

/-- Going from visit to visit may take more of them. -/
theorem goesOn_visitFrom {stops stops' : List (Stop W)}
    (h : RelatedStops (fun _ => GoesOn) stops stops') (scope : String) (m : Nat) :
    ∀ {n : Nat}, m ≤ n → ∀ index, GoesOn (visitFrom stops scope m index)
      (visitFrom stops' scope n index) := by
  induction m with
  | zero =>
    intro n _ index
    rcases h.getElem? index with ⟨hn, hn'⟩ | ⟨stop, stop', hs, hs', -, -⟩
    · rw [visitFrom, visitFrom, hn, hn']
      exact .refl _
    · rw [visitFrom, hs]
      exact fun _ => .inl rfl
  | succ m ih =>
    intro n hmn index
    obtain ⟨n, rfl⟩ : ∃ k, n = k + 1 := ⟨n - 1, by omega⟩
    have hmn : m ≤ n := by omega
    rcases h.getElem? index with ⟨hn, hn'⟩ | ⟨stop, stop', hs, hs', hname, hvisit⟩
    · rw [visitFrom, visitFrom, hn, hn']
      exact .refl _
    · rw [visitFrom, visitFrom, hs, hs']
      refine (hvisit scope index).bind fun ran => relation_ite ?_ (ih hmn _)
      rw [hname]
      refine (congruent_goesOn.steers.nextIndex h _ _ _).bind fun next => ?_
      cases next with
      | some j => exact ih hmn j
      | none => exact .refl _

theorem stopOf_name (env : Setting W) (step : Step Action) : (stopOf env step).name = step.name := by
  cases step
  rfl

variable {env env' : Setting W}

mutual

/-- A step does the same with more fuel, unless it runs out of what there is. -/
theorem goesOn_act (h : MoreFuel env env') (step : Step Unit) :
    ∀ (action : Action) (path : String) (index : Nat),
      GoesOn (act env step action path index) (act env' step action path index)
  | .bash _ _, _, _ => h.composesTools.runBash _ _ _
  | .agent _, _, _ => h.composesTools.runAgent _ _
  | .prompt _, _, _ => h.composesTools.runPrompt _ _
  | .adapter _ _, _, _ => h.composesTools.runAdapter _ _ _ _
  | .set _ _ _, _, _ => congruent_goesOn.runSet _ _ _ _
  | .log _ _, _, _ => congruent_goesOn.runLog _ _ _
  | .goto _, _, _ | .leave, _, _ | .next, _, _ =>
    (congruent_goesOn.update _).bind fun _ => .refl _
  | .foreach loop body, path, _ => by
    rw [act, act, h.sorter_eq]
    exact congruent_goesOn.composesLoops.foreachLoop congruent_goesOn.panics
      (goesOn_visitFrom (goesOn_stopsOf h body) path _ h.fuel_le 0).signalled _ loop
  | .whilst loop body, path, _ =>
    congruent_goesOn.composesLoops.whileLoop
      (goesOn_visitFrom (goesOn_stopsOf h body) path _ h.fuel_le 0).signalled _ loop
  | .range loop body, path, _ =>
    congruent_goesOn.composesLoops.rangeLoop
      (goesOn_visitFrom (goesOn_stopsOf h body) path _ h.fuel_le 0).signalled _ loop
  | .retry _ body, path, _ =>
    congruent_goesOn.composesLoops.retryLoop fun number =>
      GoesOn.signalled (congruent_goesOn.steers.tryPass
        (goesOn_visitFrom (goesOn_stopsOf h body) path _ h.fuel_le 0) _ _ number)
  | .shared ⟨_, _, body, _⟩ _ _, path, _ =>
    congruent_goesOn.runShared (fun _ =>
      (goesOn_visitFrom (goesOn_stopsOf h body) path _ h.fuel_le 0).closing _) _ _ _ _ _

theorem goesOn_stopOf (h : MoreFuel env env') :
    ∀ (step : Step Action) (scope : String) (index : Nat),
      GoesOn ((stopOf env step).visit scope index) ((stopOf env' step).visit scope index)
  | ⟨_, _, _, _, _, _, _, action⟩, scope, index =>
    congruent_goesOn.visit (goesOn_act h _ action) _ scope index

theorem goesOn_stopsOf (h : MoreFuel env env') :
    ∀ (steps : List (Step Action)),
      RelatedStops (fun _ => GoesOn) (stopsOf env steps) (stopsOf env' steps)
  | [] => .nil
  | step :: rest =>
    .cons ⟨(stopOf_name env step).trans (stopOf_name env' step).symm, goesOn_stopOf h step⟩
      (goesOn_stopsOf h rest)

end

/-- **More fuel changes nothing** about a list of steps that does not run out of it. -/
theorem block_of_fuel_le (env : Setting W) (steps : Block) (scope : String) {m n : Nat}
    (hmn : m ≤ n) {s : RunState W} (h : (block { env with fuel := m } steps scope s).1 ≠ .error .outOfFuel) :
    block { env with fuel := n } steps scope s = block { env with fuel := m } steps scope s := by
  have hmore : MoreFuel { env with fuel := m } { env with fuel := n } :=
    ⟨rfl, rfl, rfl, rfl, hmn⟩
  exact (goesOn_visitFrom (goesOn_stopsOf hmore steps) scope m hmn 0 s).resolve_left h

end Run

end Runbook
