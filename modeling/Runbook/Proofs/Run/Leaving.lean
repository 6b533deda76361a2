import Runbook.Proofs.Run.Frames

/-!
# Leaving a loop

A step in the body of a loop may ask to leave it.  This file says what the loop makes of that: the
pass counts, no other pass begins, and the loop comes to its end.  For loops while a condition holds
that is so in every pass, the last one that is allowed among them.  A loop of attempts that is left
in its last attempt counts as exhausted if it has a condition to stop at that does not hold; left
in an earlier one it does not.

* `Turns` counts the passes after which a loop goes on.  What such a pass is, `WhileLoop.Turn` and
  `RetryLoop.Turn` say by what its body does, and not by how the loops are run;
* `whilePasses_turn` and `retryPasses_turn` are the steps from one pass to the next,
  `whilePasses_leave` and `retryPasses_leave` are the passes that end the loop;
* `act_leave` is the result, and `leaving_exhausts` an attempt that is left and yet counts as
  exhausted.
-/

namespace Runbook

/-- From the first state, so many turns lead to the last one. -/
inductive Turns {σ : Type} (turn : Nat → σ → σ → Prop) (a : σ) : Nat → σ → Prop
  /-- There was no turn yet. -/
  | none : Turns turn a 0 a
  /-- There was one more turn. -/
  | next {n : Nat} {b c : σ} (before : Turns turn a n b) (last : turn n b c) :
    Turns turn a (n + 1) c

/-- What no turn changes is the same after all of them. -/
theorem Turns.eq {σ β : Type} {turn : Nat → σ → σ → Prop} {a b : σ} {n : Nat} {f : Nat → σ → β}
    (h : Turns turn a n b) (hf : ∀ n b c, turn n b c → f n b = f (n + 1) c) : f 0 a = f n b := by
  induction h with
  | none => rfl
  | next before last ih => rw [ih, hf _ _ _ last]

open Portion

variable {W : Type}

/-- The state in which the body of a pass begins: the pass is noted, and its number is bound. -/
def RunState.opening (s : RunState W) (done : Nat) (var : String) : RunState W :=
  { s with progress := (s.progress.setCursor done).bind var (.int (done + 1 : Nat)) }

/-- The state in which what a body asked of its loop counts as done. -/
def RunState.quieted (s : RunState W) : RunState W :=
  { s with progress := s.progress.setSignal .quiet }

/-! ## Passes -/

/-- After so many passes the body of one more begins: the loop may have one more, and the condition
holds. -/
def WhileLoop.Opens (loop : WhileLoop) (done : Nat) (s t : RunState W) : Prop :=
  done < loop.maxPasses ∧
    ∃ u, Run.holds loop.condition s = (.ok true, u) ∧ t = u.opening done loop.counterVar

/-- A pass after which the loop goes on: its body comes to its end and does not ask to leave. -/
def WhileLoop.Turn (loop : WhileLoop) (pass : Run W Unit) (done : Nat) (s t : RunState W) : Prop :=
  ∃ u v, loop.Opens done s u ∧ pass u = (.ok (), v) ∧ v.progress.signal ≠ .leave ∧ t = v.quieted

/-- After so many attempts the body of one more begins. -/
def RetryLoop.Opens (loop : RetryLoop) (done : Nat) (s t : RunState W) : Prop :=
  done < loop.maxAttempts ∧ t = s.opening done loop.attemptVar

/-- An attempt after which the loop goes on: it does not ask to leave, and has not succeeded.  What
is carried on with the state is why the last attempt that failed did so. -/
def RetryLoop.Turn (loop : RetryLoop) (site : Run.LoopSite) (pass : Run W Unit) (done : Nat)
    (a b : Option String × RunState W) : Prop :=
  ∃ error u v, loop.Opens done a.2 u ∧ Run.tryPass site loop pass (done + 1) u = (.ok error, v) ∧
    v.progress.signal ≠ .leave ∧
    Run.succeeded loop error.isNone v.quieted = (.ok false, b.2) ∧ b.1 = error.or a.1

/-- The state in which the attempts of a loop begin. -/
def RetryLoop.begun (loop : RetryLoop) (site : Run.LoopSite) (s : RunState W) : RunState W :=
  let s := Run.entered site .retry [loop.attemptVar] s
  { s with progress := s.progress.setTotal loop.maxAttempts }

/-- How a loop of attempts ends: it fails if it ran out of attempts and is to fail then. -/
def RetryLoop.ending (loop : RetryLoop) (step : String) (summary : Run.RetrySummary) :
    Except Halt Value :=
  if summary.success = false ∧ loop.maxAttempts ≤ summary.attempts ∧ loop.onExhausted = .fail
  then .error (.failed (.loopExhausted step summary.exhaustedDetail))
  else .ok summary.toValue

namespace Run

variable {pass : Run W Unit} {site : LoopSite} {done : Nat} {s t u : RunState W}

theorem takeSignal_apply (s : RunState W) : takeSignal s = (.ok s.progress.signal, s.quieted) := rfl

theorem holds_apply (condition : String) (s : RunState W) :
    (holds condition s).1 = .ok (Condition.evaluate s.progress.vars condition) := rfl

/-! ## While a condition holds -/

section While

variable {loop : WhileLoop}

/-- A pass that begins, and what is left to do after it. -/
theorem whilePasses_opens (h : loop.Opens done s t) :
    whilePasses loop pass (loop.maxPasses - done) done s =
      (do
        pass
        if (← takeSignal) = .leave then return ⟨done + 1, false⟩
        whilePasses loop pass (loop.maxPasses - (done + 1)) (done + 1) : Run W WhileSummary) t := by
  obtain ⟨hlt, u, hholds, rfl⟩ := h
  have hleft : loop.maxPasses - done = (loop.maxPasses - (done + 1)) + 1 := by omega
  rw [hleft, whilePasses, bind_ok hholds]
  rfl

theorem whilePasses_turn (h : loop.Turn pass done s t) :
    whilePasses loop pass (loop.maxPasses - done) done s =
      whilePasses loop pass (loop.maxPasses - (done + 1)) (done + 1) t := by
  obtain ⟨u, v, hopens, hpass, hsignal, rfl⟩ := h
  rw [whilePasses_opens hopens, bind_ok hpass, bind_ok (takeSignal_apply v), if_neg hsignal]

theorem whilePasses_leave (h : loop.Opens done s t) (hpass : pass t = (.ok (), u))
    (hleave : u.progress.signal = .leave) :
    whilePasses loop pass (loop.maxPasses - done) done s = (.ok ⟨done + 1, false⟩, u.quieted) := by
  rw [whilePasses_opens h, bind_ok hpass, bind_ok (takeSignal_apply u), if_pos hleave]
  rfl

/-- Leaving the loop is no exhaustion, also in the last pass that it may have. -/
theorem whileLoop_leave {before : RunState W}
    (hbefore : Turns (loop.Turn pass) (entered site .whilst [loop.counterVar] s) done before)
    (h : loop.Opens done before t) (hpass : pass t = (.ok (), u))
    (hleave : u.progress.signal = .leave) :
    (whileLoop site loop pass s).1 = .ok (WhileSummary.toValue ⟨done + 1, false⟩) := by
  have hpasses : whilePasses loop pass loop.maxPasses 0 (entered site .whilst [loop.counterVar] s) =
      (.ok ⟨done + 1, false⟩, u.quieted) := by
    rw [← whilePasses_leave h hpass hleave]
    exact hbefore.eq (f := fun n => whilePasses loop pass (loop.maxPasses - n) n)
      fun n b c hturn => whilePasses_turn hturn
  rw [whileLoop, inFrame_apply, closing_apply, bind_ok hpasses]
  rfl

end While

/-! ## Until an attempt succeeds -/

section Retry

variable {loop : RetryLoop} {lastError error : Option String}

/-- An attempt that begins, and what is left to do after it. -/
theorem retryPasses_opens (h : loop.Opens done s t) :
    retryPasses site loop pass (loop.maxAttempts - done) done lastError s =
      (do
        let error ← tryPass site loop pass (done + 1)
        let signal ← takeSignal
        let success ← succeeded loop error.isNone
        let lastError := error.or lastError
        if success || signal = .leave then return ⟨success, done + 1, lastError⟩
        retryPasses site loop pass (loop.maxAttempts - (done + 1)) (done + 1) lastError :
        Run W RetrySummary) t := by
  obtain ⟨hlt, rfl⟩ := h
  have hleft : loop.maxAttempts - done = (loop.maxAttempts - (done + 1)) + 1 := by omega
  rw [hleft, retryPasses]
  rfl

theorem retryPasses_turn {a b : Option String × RunState W} (h : loop.Turn site pass done a b) :
    retryPasses site loop pass (loop.maxAttempts - done) done a.1 a.2 =
      retryPasses site loop pass (loop.maxAttempts - (done + 1)) (done + 1) b.1 b.2 := by
  obtain ⟨error, u, v, hopens, hpass, hsignal, hfails, hcarried⟩ := h
  have hgoesOn : ¬ (false || decide (v.progress.signal = .leave)) = true := by simpa using hsignal
  rw [retryPasses_opens hopens, bind_ok hpass, bind_ok (takeSignal_apply v), bind_ok hfails,
    hcarried, if_neg hgoesOn]

/-- Whether an attempt whose body came to its end has succeeded. -/
theorem succeeded_of_passed (loop : RetryLoop) (s : RunState W) :
    (succeeded loop true s).1 = .ok (loop.stopWhen.all (Condition.evaluate s.progress.vars)) := by
  unfold succeeded
  cases loop.stopWhen with
  | none => rfl
  | some condition => exact holds_apply condition s

theorem tryPass_ok (hpass : pass s = (.ok (), t)) (number : Nat) :
    tryPass site loop pass number s = (.ok none, t) := by
  have hattempt : attempt pass s = (.ok (.ok ()), t) := by rw [attempt, hpass]
  rw [tryPass, bind_ok hattempt]
  rfl

theorem retryPasses_leave (h : loop.Opens done s t) (hpass : pass t = (.ok (), u))
    (hleave : u.progress.signal = .leave) :
    (retryPasses site loop pass (loop.maxAttempts - done) done lastError s).1 =
      .ok ⟨loop.stopWhen.all (Condition.evaluate u.progress.vars), done + 1, lastError⟩ := by
  have hsucceeded : (succeeded loop (none : Option String).isNone u.quieted).1 = _ :=
    succeeded_of_passed loop u.quieted
  rcases hv : succeeded loop (none : Option String).isNone u.quieted with ⟨r, v⟩
  rw [hv] at hsucceeded
  obtain rfl : r = _ := hsucceeded
  rw [retryPasses_opens h, bind_ok (tryPass_ok hpass _), bind_ok (takeSignal_apply u), bind_ok hv,
    if_pos (by simp [hleave])]
  rfl

/-- What a loop of attempts does when they are over. -/
theorem retryEnding_apply (loop : RetryLoop) (site : LoopSite) (summary : RetrySummary)
    (s : RunState W) :
    ((do
      if summary.success then
        report (.info s!"[Loop] retry '{site.path}' succeeded on attempt {summary.attempts}")
      else if loop.maxAttempts ≤ summary.attempts then
        exhausted site loop.onExhausted "retry" summary.exhaustedDetail
      return summary.toValue : Run W Value) s).1 = loop.ending site.step summary := by
  unfold RetryLoop.ending exhausted
  by_cases hsuccess : summary.success = true
  · simp only [hsuccess, if_true, Bool.true_eq_false, false_and, if_false]
    rfl
  · have hfailed : summary.success = false := Bool.eq_false_iff.2 hsuccess
    by_cases hlast : loop.maxAttempts ≤ summary.attempts
    · cases hpolicy : loop.onExhausted with
      | fail => simp [hfailed, hlast]; rfl
      | goOn => simp [hfailed, hlast]; rfl
    · simp [hfailed, hlast]; rfl

/-- A loop of attempts that is left comes to its end, unless it was the last attempt, the condition
to stop at does not hold, and the loop is one that fails then. -/
theorem retryLoop_leave {before : RunState W}
    (hbefore : Turns (loop.Turn site pass) (none, loop.begun site s) done (lastError, before))
    (h : loop.Opens done before t) (hpass : pass t = (.ok (), u))
    (hleave : u.progress.signal = .leave) :
    (retryLoop site loop pass s).1 = loop.ending site.step
      ⟨loop.stopWhen.all (Condition.evaluate u.progress.vars), done + 1, lastError⟩ := by
  have hpasses : (retryPasses site loop pass loop.maxAttempts 0 none (loop.begun site s)).1 =
      .ok ⟨loop.stopWhen.all (Condition.evaluate u.progress.vars), done + 1, lastError⟩ := by
    rw [← retryPasses_leave h hpass hleave]
    exact congrArg Prod.fst (hbefore.eq
      (f := fun n a => retryPasses site loop pass (loop.maxAttempts - n) n a.1 a.2)
      fun n b c hturn => retryPasses_turn hturn)
  rcases hv : retryPasses site loop pass loop.maxAttempts 0 none (loop.begun site s) with ⟨r, v⟩
  rw [hv] at hpasses
  obtain rfl : r = _ := hpasses
  have hbegun : update (·.setTotal loop.maxAttempts) (entered site .retry [loop.attemptVar] s) =
      (.ok (), loop.begun site s) := rfl
  rw [retryLoop, inFrame_apply, closing_apply, bind_ok hbegun, bind_ok hv]
  exact retryEnding_apply loop site _ v

end Retry

/-! ## Results -/

/-- **Leaving a loop ends it.**  If the body of a pass comes to its end and has asked to leave, a
loop while a condition holds comes to its end with the passes up to this one, and is not exhausted,
be it the last pass that it may have.  So does a loop of attempts, with a success if there is no
condition to stop at or it holds.  Only if it does not hold, this was the last attempt, and the loop
is to fail when it is exhausted, it fails for that. -/
theorem act_leave (env : Setting W) (step : Step Unit) (path : String) (index : Nat) (body : Block)
    (s t u : RunState W) (done : Nat) (hbody : block env body path t = (.ok (), u))
    (hleave : u.progress.signal = .leave) :
    let site : LoopSite := ⟨step.name, index, path⟩
    let pass := block env body path
    (∀ (loop : WhileLoop) (before : RunState W),
      Turns (loop.Turn pass) (entered site .whilst [loop.counterVar] s) done before →
      loop.Opens done before t →
        (act env step (.whilst loop body) path index s).1 =
          .ok (WhileSummary.toValue ⟨done + 1, false⟩)) ∧
    ∀ (loop : RetryLoop) (before : RunState W) (lastError : Option String),
      Turns (loop.Turn site pass) (none, loop.begun site s) done (lastError, before) →
      loop.Opens done before t →
        let success := loop.stopWhen.all (Condition.evaluate u.progress.vars)
        let summary : RetrySummary := ⟨success, done + 1, lastError⟩
        (success = true ∨ done + 1 < loop.maxAttempts ∨ loop.onExhausted = .goOn →
          (act env step (.retry loop body) path index s).1 = .ok summary.toValue) ∧
        (success = false → done + 1 = loop.maxAttempts → loop.onExhausted = .fail →
          (act env step (.retry loop body) path index s).1 =
            .error (.failed (.loopExhausted step.name summary.exhaustedDetail))) := by
  intro site pass
  constructor
  · intro loop before hbefore hopens
    rw [act]
    exact whileLoop_leave hbefore hopens hbody hleave
  · intro loop before lastError hbefore hopens success summary
    have hends : (act env step (.retry loop body) path index s).1 =
        loop.ending step.name summary := by
      rw [act]
      exact retryLoop_leave hbefore hopens hbody hleave
    rw [hends]
    unfold RetryLoop.ending
    constructor
    · intro hgoesOn
      refine if_neg ?_
      rintro ⟨hfailed, hlast, hpolicy⟩
      rcases hgoesOn with hsuccess | hearlier | hpolicy'
      · exact absurd (hsuccess.symm.trans hfailed) (by decide)
      · exact absurd hlast (Nat.not_le.2 hearlier)
      · exact absurd (hpolicy'.symm.trans hpolicy) (by decide)
    · intro hfailed hlast hpolicy
      exact if_pos ⟨hfailed, Nat.le_of_eq hlast.symm, hpolicy⟩

/-- Steps that ask to leave a loop in its second pass. -/
def leavingSecond : Block :=
  [⟨"leave", some "{n} == 2", .stop, none, none, none, none, .leave⟩]

/-- The step of a loop. -/
def loopStep : Step Unit := ⟨"loop", none, .stop, none, none, none, none, ()⟩

/-- Where the step of a loop stands. -/
def loopSite : LoopSite := ⟨"loop", 0, "loop"⟩

/-- A run before its first step. -/
def fresh : RunState Unit := ⟨.start .empty, [], [], ⟨"", 0, .empty⟩, ()⟩

/-- A loop of two passes at most, whose condition holds before, between and after them. -/
def twoPasses : WhileLoop := ⟨"{n} != 3", 2, "n", .fail⟩

/-- A loop of two attempts, whose condition to stop at holds after neither. -/
def twoAttempts : RetryLoop := ⟨2, 0, some "{n} == 3", "n", .fail⟩

theorem leavingSecond_whilst : ∃ before t u : RunState Unit,
    Turns (twoPasses.Turn (block (bareSetting 10) leavingSecond "loop"))
        (entered loopSite .whilst ["n"] fresh) 1 before ∧
      twoPasses.Opens 1 before t ∧ block (bareSetting 10) leavingSecond "loop" t = (.ok (), u) ∧
      u.progress.signal = .leave := by
  let body : Run Unit Unit := block (bareSetting 10) leavingSecond "loop"
  let start : RunState Unit := entered loopSite .whilst ["n"] fresh
  let first := (holds twoPasses.condition start).2.opening 0 "n"
  let before := (body first).2.quieted
  let second := (holds twoPasses.condition before).2.opening 1 "n"
  have hstart : (holds twoPasses.condition start).1 = .ok true := by decide +kernel
  have hgoesOn : (body first).1 = .ok () ∧ (body first).2.progress.signal ≠ .leave := by
    decide +kernel
  have hbefore : (holds twoPasses.condition before).1 = .ok true := by decide +kernel
  have hleaves : (body second).1 = .ok () ∧ (body second).2.progress.signal = .leave := by
    decide +kernel
  have hturn : twoPasses.Turn body 0 start before :=
    ⟨first, (body first).2, ⟨by decide, _, Prod.ext hstart rfl, rfl⟩, Prod.ext hgoesOn.1 rfl,
      hgoesOn.2, rfl⟩
  exact ⟨before, second, (body second).2, .next .none hturn,
    ⟨by decide, _, Prod.ext hbefore rfl, rfl⟩, Prod.ext hleaves.1 rfl, hleaves.2⟩

theorem leavingSecond_retry : ∃ before t u : RunState Unit,
    Turns (twoAttempts.Turn loopSite (block (bareSetting 10) leavingSecond "loop"))
        (none, twoAttempts.begun loopSite fresh) 1 (none, before) ∧
      twoAttempts.Opens 1 before t ∧ block (bareSetting 10) leavingSecond "loop" t = (.ok (), u) ∧
      u.progress.signal = .leave ∧ Condition.evaluate u.progress.vars "{n} == 3" = false := by
  let body : Run Unit Unit := block (bareSetting 10) leavingSecond "loop"
  let first := (twoAttempts.begun loopSite fresh).opening 0 "n"
  let tried := tryPass loopSite twoAttempts body 1 first
  let judged : Except Halt Bool × RunState Unit := succeeded twoAttempts true tried.2.quieted
  let second := judged.2.opening 1 "n"
  have htried : tried.1 = .ok none ∧ tried.2.progress.signal ≠ .leave := by decide +kernel
  have hjudged : judged.1 = .ok false := by decide +kernel
  have hleaves : (body second).1 = .ok () ∧ (body second).2.progress.signal = .leave ∧
      Condition.evaluate (body second).2.progress.vars "{n} == 3" = false := by decide +kernel
  have hturn : twoAttempts.Turn loopSite body 0 (none, twoAttempts.begun loopSite fresh)
      (none, judged.2) :=
    ⟨none, first, tried.2, ⟨by decide, rfl⟩, Prod.ext htried.1 rfl, htried.2, Prod.ext hjudged rfl,
      rfl⟩
  exact ⟨judged.2, second, (body second).2, .next .none hturn, ⟨by decide, rfl⟩,
    Prod.ext hleaves.1 rfl, hleaves.2⟩

/-- Both loops are left in the last pass that they may have: the one comes to its end, and the other
is exhausted. -/
theorem act_leave_lastPass :
    (∃ before t u : RunState Unit,
      Turns (twoPasses.Turn (block (bareSetting 10) leavingSecond "loop"))
          (entered loopSite .whilst ["n"] fresh) 1 before ∧
        twoPasses.Opens 1 before t ∧ block (bareSetting 10) leavingSecond "loop" t = (.ok (), u) ∧
        u.progress.signal = .leave ∧
        (act (bareSetting 10) loopStep (.whilst twoPasses leavingSecond) "loop" 0 fresh).1 =
          .ok (WhileSummary.toValue ⟨2, false⟩)) ∧
    ∃ before t u : RunState Unit,
      Turns (twoAttempts.Turn loopSite (block (bareSetting 10) leavingSecond "loop"))
          (none, twoAttempts.begun loopSite fresh) 1 (none, before) ∧
        twoAttempts.Opens 1 before t ∧
        block (bareSetting 10) leavingSecond "loop" t = (.ok (), u) ∧
        u.progress.signal = .leave ∧
        (act (bareSetting 10) loopStep (.retry twoAttempts leavingSecond) "loop" 0 fresh).1 =
          .error (.failed (.loopExhausted "loop"
            (RetrySummary.exhaustedDetail ⟨false, 2, none⟩))) := by
  constructor
  · obtain ⟨before, t, u, hbefore, hopens, hbody, hleave⟩ := leavingSecond_whilst
    exact ⟨before, t, u, hbefore, hopens, hbody, hleave,
      (act_leave (bareSetting 10) loopStep "loop" 0 leavingSecond fresh t u 1 hbody hleave).1
        twoPasses before hbefore hopens⟩
  · obtain ⟨before, t, u, hbefore, hopens, hbody, hleave, hfails⟩ := leavingSecond_retry
    have hends := ((act_leave (bareSetting 10) loopStep "loop" 0 leavingSecond fresh t u 1 hbody
      hleave).2 twoAttempts before none hbefore hopens).2 hfails rfl rfl
    have hsuccess : twoAttempts.stopWhen.all (Condition.evaluate u.progress.vars) = false := hfails
    rw [hsuccess] at hends
    exact ⟨before, t, u, hbefore, hopens, hbody, hleave, hends⟩

/-- One attempt at a step that asks to leave, with a condition to stop at that never holds. -/
def onlyAttempt : RetryLoop := ⟨1, 0, some "{done}", "attempt", .fail⟩

/-- A step that asks to leave a loop. -/
def leavingAtOnce : Block := [⟨"leave", none, .stop, none, none, none, none, .leave⟩]

/-- The only attempt of a loop comes to its end and asks to leave, and yet the loop fails because it
is exhausted. -/
theorem leaving_exhausts :
    let first := (onlyAttempt.begun loopSite fresh).opening 0 "attempt"
    let left := block (bareSetting 10) leavingAtOnce "loop" first
    onlyAttempt.Opens 0 (onlyAttempt.begun loopSite fresh) first ∧
      left.1 = .ok () ∧ left.2.progress.signal = .leave ∧
      (act (bareSetting 10) loopStep (.retry onlyAttempt leavingAtOnce) "loop" 0 fresh).1 =
        .error (.failed (.loopExhausted "loop" "1 attempts without success")) :=
  ⟨⟨by decide, rfl⟩, by decide +kernel⟩

end Run

end Runbook
