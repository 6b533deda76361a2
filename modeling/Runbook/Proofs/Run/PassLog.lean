import Runbook.Proofs.Run.Bindings
import Runbook.Proofs.Run.Leaving
import Runbook.Proofs.Run.OwnSteps

/-!
# The passes of a loop

A run of a loop in which every pass through its body is put down in a list beside the world, with
the state in which it began, how it ended and the state that it left.

* `LoopPass` is one pass, and `Run.logged` does what a pass does and puts it down;
* `Run.Mirrors.paired` says that this changes nothing else;
* `Chained` says of a list of passes that they are passes of a body, each of which began as the loop
  lets it after the ones before, and after each of which but the last the loop went on;
* `Between` is the state of a loop between two passes, and `Between.next` goes to the next one.
-/

namespace Runbook

variable {W : Type}

/-- One pass through the body of a loop. -/
structure LoopPass (W : Type) where
  /-- The state in which it begins. -/
  start : RunState W
  /-- How it ends. -/
  result : Except Halt Unit
  /-- The state that it leaves. -/
  finish : RunState W

namespace LoopPass

/-- The pass of a body that begins in a state. -/
def of (body : Run W Unit) (start : RunState W) : LoopPass W :=
  ⟨start, (body start).1, (body start).2⟩

/-- The pass asks to leave the loop. -/
def Leaves (p : LoopPass W) : Prop := p.finish.progress.signal = .leave

instance (p : LoopPass W) : Decidable p.Leaves := inferInstanceAs (Decidable (_ = _))

end LoopPass

/-- The state that passes leave, with what the last of them asked of its loop counting as done; if
there are none, it is the one before. -/
def RunState.leftBy (s : RunState W) (passes : List (LoopPass W)) : RunState W :=
  passes.getLast?.elim s (·.finish.quieted)

/-- The body of a pass begins with the variables so far and the number of the pass. -/
theorem RunState.vars_opening (s : RunState W) (done : Nat) (var : String) :
    (s.opening done var).progress.vars = s.progress.vars.insert var (.int (done + 1 : Nat)) :=
  congrArg (KeyMap.insert · var _) (Run.vars_onFrame _ _)

namespace Run

open Portion

variable {α H : Type}

/-- What holds in the end of a loop, once its frame is closed. -/
theorem ends_closed {site : LoopSite} {kind : LoopKind} {names : List String} {loop : Run W α}
    {s : RunState W} {Q : Except Halt α → RunState W → Prop}
    (h : Ends loop (entered site kind names s)
      (fun r t => Q r { t with progress := t.progress.exitLoop })) :
    Ends (inFrame site kind names loop) s Q :=
  h

/-- Reporting leaves no other trace. -/
theorem report_apply (line : LogLine) (s : RunState W) :
    ∃ t, report line s = (.ok (), t) ∧ t.progress = s.progress ∧ t.world = s.world :=
  ⟨_, rfl, rfl, rfl⟩

/-- Runs the body of a loop, and puts the pass down. -/
def logged (body : Run W Unit) : Run (W × List (LoopPass W)) Unit := fun s =>
  let p := LoopPass.of body (s.seen Prod.fst)
  (p.result, p.finish.paired (s.world.2 ++ [p]))

/-- A pass does the same whether it is put down or not. -/
theorem mirrors_logged (body : Run W Unit) : Mirrors Prod.fst (logged body) body := fun _ => rfl

/-- What is beside the world makes no difference to a part that does what is seen of another. -/
theorem Mirrors.paired {m' : Run (W × H) α} {m : Run W α} (h : Mirrors Prod.fst m' m)
    (s : RunState W) (x : H) :
    m' (s.paired x) = ((m s).1, (m s).2.paired (m' (s.paired x)).2.world.2) := by
  have hs : m s = ((m' (s.paired x)).1, (m' (s.paired x)).2.seen Prod.fst) := h (s.paired x)
  rw [hs]
  rfl

theorem paired_snd (s : RunState W) (x : H) : (s.paired x).world.2 = x := rfl

/-- So what holds in its end holds in the end of the other, with something beside the world. -/
theorem Mirrors.ends_paired {m' : Run (W × H) α} {m : Run W α} (h : Mirrors Prod.fst m' m)
    {s : RunState W} {x : H} {Q : Except Halt α → RunState (W × H) → Prop}
    (hQ : Ends m' (s.paired x) Q) :
    ∃ y, m' (s.paired x) = ((m s).1, (m s).2.paired y) ∧ Q (m s).1 ((m s).2.paired y) := by
  have hrun := h.paired s x
  rw [Ends, hrun] at hQ
  exact ⟨_, hrun, hQ⟩

section Loops

variable (site : LoopSite) (body : Run W Unit)

theorem mirrors_foreachLoop (sorter : Sorter) (loop : ForeachLoop) :
    Mirrors Prod.fst (foreachLoop sorter site loop (logged body))
      (foreachLoop sorter site loop body) :=
  (congruent_mirrors Prod.fst).composesLoops.foreachLoop (congruent_mirrors _).panics
    ((congruent_mirrors _).signalled (congruent_mirrors _).steers.takeSignal (mirrors_logged body))
    site loop

theorem mirrors_whileLoop (loop : WhileLoop) :
    Mirrors Prod.fst (whileLoop site loop (logged body)) (whileLoop site loop body) :=
  (congruent_mirrors Prod.fst).composesLoops.whileLoop
    ((congruent_mirrors _).signalled (congruent_mirrors _).steers.takeSignal (mirrors_logged body))
    site loop

theorem mirrors_rangeLoop (loop : RangeLoop) :
    Mirrors Prod.fst (rangeLoop site loop (logged body)) (rangeLoop site loop body) :=
  (congruent_mirrors Prod.fst).composesLoops.rangeLoop
    ((congruent_mirrors _).signalled (congruent_mirrors _).steers.takeSignal (mirrors_logged body))
    site loop

theorem mirrors_retryLoop (loop : RetryLoop) :
    Mirrors Prod.fst (retryLoop site loop (logged body)) (retryLoop site loop body) :=
  (congruent_mirrors Prod.fst).composesLoops.retryLoop fun number =>
    (congruent_mirrors _).signalled (congruent_mirrors _).steers.takeSignal
      ((congruent_mirrors _).steers.tryPass (mirrors_logged body) site loop number)

end Loops

end Run

/-! ## Lists of passes -/

variable {body : Run W Unit} {opens : List (LoopPass W) → RunState W → Prop}
  {goesOn : LoopPass W → Prop} {passes : List (LoopPass W)}

/-- Passes of a body, one after the other.  `opens` says in which states a pass may begin after
others, and `goesOn` after which passes the loop goes on. -/
structure Chained (body : Run W Unit) (opens : List (LoopPass W) → RunState W → Prop)
    (goesOn : LoopPass W → Prop) (passes : List (LoopPass W)) : Prop where
  /-- They are passes of the body. -/
  ran : ∀ p ∈ passes, body p.start = (p.result, p.finish)
  /-- Each began as it may after those before. -/
  opened : ∀ k p, passes[k]? = some p → opens (passes.take k) p.start
  /-- The loop went on after each but the last. -/
  goesOn : ∀ k p, passes[k]? = some p → k + 1 < passes.length → goesOn p

theorem chained_nil : Chained body opens goesOn [] := ⟨by simp, by simp, by simp⟩

/-- One more pass, if the loop went on after all so far. -/
theorem Chained.concat (h : Chained body opens goesOn passes) (hgo : ∀ p ∈ passes, goesOn p)
    {last : LoopPass W} (hran : body last.start = (last.result, last.finish))
    (hopens : opens passes last.start) : Chained body opens goesOn (passes ++ [last]) where
  ran p hp := by
    rcases List.mem_append.1 hp with hold | hlast
    · exact h.ran p hold
    · rwa [List.mem_singleton.1 hlast]
  opened k p hk := by
    by_cases hlt : k < passes.length
    · rw [List.getElem?_append_left hlt] at hk
      rw [List.take_append_of_le_length (Nat.le_of_lt hlt)]
      exact h.opened k p hk
    · obtain ⟨hle, -⟩ := List.getElem?_eq_some_iff.1 hk
      rw [List.length_append, List.length_singleton] at hle
      obtain rfl : k = passes.length := by omega
      rw [List.getElem?_concat_length] at hk
      obtain rfl := Option.some.inj hk
      rwa [List.take_left' rfl]
  goesOn k p hk hlt := by
    rw [List.length_append, List.length_singleton] at hlt
    rw [List.getElem?_append_left (by omega)] at hk
    exact hgo p (List.mem_of_getElem? hk)

/-- A pass after which the loop does not go on is the last. -/
theorem Chained.length_eq (h : Chained body opens goesOn passes) {k : Nat} {p : LoopPass W}
    (hk : passes[k]? = some p) (hstops : ¬ goesOn p) : passes.length = k + 1 := by
  obtain ⟨hlt, -⟩ := List.getElem?_eq_some_iff.1 hk
  by_contra hne
  exact hstops (h.goesOn k p hk (by omega))

/-- So it is what is last in the list. -/
theorem Chained.getLast?_eq (h : Chained body opens goesOn passes) {p : LoopPass W}
    (hp : p ∈ passes) (hstops : ¬ goesOn p) : passes.getLast? = some p := by
  obtain ⟨k, hk⟩ := List.getElem?_of_mem hp
  rw [List.getLast?_eq_getElem?, h.length_eq hk hstops]
  exact hk

/-- Before a pass of a number there are as many others. -/
theorem length_take_of_getElem? {k : Nat} {p : LoopPass W} (hk : passes[k]? = some p) :
    (passes.take k).length = k :=
  List.length_take_of_le (Nat.le_of_lt (List.getElem?_eq_some_iff.1 hk).1)

/-! ## Between two passes -/

/-- A loop whose passes are put down is between two of them: it went on after all, and what `v`
sees of the state is what they left. -/
structure Between {γ : Type} (v : RunState W → γ) (first : RunState W) (body : Run W Unit)
    (opens : List (LoopPass W) → RunState W → Prop) (goesOn : LoopPass W → Prop)
    (t : RunState (W × List (LoopPass W))) : Prop where
  chained : Chained body opens goesOn t.world.2
  goesOn : ∀ p ∈ t.world.2, goesOn p
  left : v (t.seen Prod.fst) = v (first.leftBy t.world.2)

theorem RunState.leftBy_concat (s : RunState W) (passes : List (LoopPass W)) (p : LoopPass W) :
    s.leftBy (passes ++ [p]) = p.finish.quieted := by
  rw [RunState.leftBy, List.getLast?_concat]
  rfl

/-- After one more pass, if the loop goes on after it, the loop is between two passes again. -/
theorem Between.next {γ : Type} {v : RunState W → γ} {first : RunState W}
    {t u : RunState (W × List (LoopPass W))} {last : LoopPass W}
    (h : Between v first body opens goesOn t) (hran : body last.start = (last.result, last.finish))
    (hopens : opens t.world.2 last.start) (hgo : goesOn last)
    (hlog : u.world.2 = t.world.2 ++ [last])
    (hleft : v (u.seen Prod.fst) = v last.finish.quieted) :
    Between v first body opens goesOn u where
  chained := hlog ▸ h.chained.concat h.goesOn hran hopens
  goesOn p hp := by
    rw [hlog] at hp
    rcases List.mem_append.1 hp with hold | hlast
    · exact h.goesOn p hold
    · rwa [List.mem_singleton.1 hlast]
  left := by rw [hleft, hlog, RunState.leftBy_concat]

end Runbook
