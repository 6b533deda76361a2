import Runbook.Proofs.Run.PassLog

/-!
# Attempts

A loop of attempts tries its body until a pass succeeds.  This file says how often it does so, what
each pass begins with, and what the loop comes to.

* `LoopPass.failure?` and `LoopPass.fatal?` tell the failures after which another attempt may follow
  from the halts that end the loop, and `RetryLoop.succeeds` says which passes succeed;
* `RetryLoop.Ended` lists the ways in which the passes come to an end, and `ended_retryPasses` says
  that there are no others, by induction on the attempts that are left;
* `act_retry_attempts` is the result.
-/

namespace Runbook

variable {W : Type}

namespace LoopPass

/-- Whether the pass comes to its end. -/
def completes (p : LoopPass W) : Bool := p.result.isOk

/-- Why the pass failed, if another attempt may follow. -/
def failure? (p : LoopPass W) : Option Failure :=
  match p.result with
  | .error (.failed failure) => if failure.isStepFailure then some failure else none
  | _ => none

/-- Why the pass halted, if no other attempt may follow. -/
def fatal? (p : LoopPass W) : Option Halt :=
  match p.result with
  | .ok () => none
  | .error (.failed failure) => if failure.isStepFailure then none else some (.failed failure)
  | .error .outOfFuel => some .outOfFuel
  | .error .panicked => some .panicked

/-- A pass whose halt is not for good came to its end, or failed because a step did. -/
theorem result_of_fatal?_eq_none {p : LoopPass W} (h : p.fatal? = none) :
    p.result = .ok () ∨
      ∃ failure, p.result = .error (.failed failure) ∧ failure.isStepFailure = true := by
  unfold fatal? at h
  split at h
  · next hresult => exact .inl hresult
  · next failure hresult =>
    refine .inr ⟨failure, hresult, ?_⟩
    by_contra hnot
    rw [if_neg hnot] at h
    cases h
  · cases h
  · cases h

/-- A halt for good is the halt of the pass, and not the failure of a step. -/
theorem result_of_fatal?_eq_some {p : LoopPass W} {halt : Halt} (h : p.fatal? = some halt) :
    p.result = .error halt ∧ ∀ failure, halt = .failed failure → failure.isStepFailure = false := by
  unfold fatal? at h
  split at h
  · cases h
  · next failure hresult =>
    by_cases hstep : failure.isStepFailure = true
    · rw [if_pos hstep] at h
      cases h
    · rw [if_neg hstep] at h
      obtain rfl := Option.some.inj h
      refine ⟨hresult, fun failure' heq => ?_⟩
      cases heq
      exact Bool.eq_false_iff.2 hstep
  · next hresult =>
    obtain rfl := Option.some.inj h
    exact ⟨hresult, fun _ heq => by cases heq⟩
  · next hresult =>
    obtain rfl := Option.some.inj h
    exact ⟨hresult, fun _ heq => by cases heq⟩

end LoopPass

/-- Why the last pass that failed did so. -/
def lastMessage (passes : List (LoopPass W)) : Option String :=
  (passes.filterMap LoopPass.failure?).getLast?.map Failure.message

theorem lastMessage_concat (passes : List (LoopPass W)) (p : LoopPass W) :
    lastMessage (passes ++ [p]) = (p.failure?.map Failure.message).or (lastMessage passes) := by
  unfold lastMessage
  rw [List.filterMap_append]
  cases h : p.failure? <;> simp [h]

namespace RetryLoop

/-- Whether a pass succeeds: the condition to stop at holds after it, or without such a condition it
comes to its end. -/
def succeeds (loop : RetryLoop) (p : LoopPass W) : Bool :=
  match loop.stopWhen with
  | some condition => Condition.evaluate p.finish.progress.vars condition
  | none => p.completes

/-- The state in which a pass begins after others: the variables are those that they left, and the
number of the pass. -/
def Begins (loop : RetryLoop) (first : RunState W) (passes : List (LoopPass W))
    (start : RunState W) : Prop :=
  start.progress.vars =
    (first.leftBy passes).progress.vars.insert loop.attemptVar (.int (passes.length + 1 : Nat))

/-- Another attempt may follow the pass. -/
def GoesOn (loop : RetryLoop) (p : LoopPass W) : Prop :=
  p.fatal? = none ∧ loop.succeeds p = false ∧ ¬ p.Leaves

/-- The ways in which the passes of a loop come to an end. -/
inductive Ended (loop : RetryLoop) (passes : List (LoopPass W)) :
    Except Halt Run.RetrySummary → Prop
  /-- No attempts are left. -/
  | spent (hlength : passes.length = loop.maxAttempts) (hgo : ∀ p ∈ passes, loop.GoesOn p) :
    Ended loop passes (.ok ⟨false, passes.length, lastMessage passes⟩)
  /-- The last pass succeeded, or asked to leave the loop. -/
  | stopped (p : LoopPass W) (hlast : passes.getLast? = some p) (hfatal : p.fatal? = none)
    (hstops : loop.succeeds p = true ∨ p.Leaves) :
    Ended loop passes (.ok ⟨loop.succeeds p, passes.length, lastMessage passes⟩)
  /-- The last pass halted for good. -/
  | failed (p : LoopPass W) (halt : Halt) (hlast : passes.getLast? = some p)
    (hfatal : p.fatal? = some halt) : Ended loop passes (.error halt)

end RetryLoop

namespace Run

open Portion

variable (site : LoopSite) (loop : RetryLoop) {body : Run W Unit} {first : RunState W}

/-- An attempt at a pass whose halt, if it has one, is not for good. -/
theorem tryPass_of_fatal?_eq_none {t : RunState (W × List (LoopPass W))}
    (h : (LoopPass.of body (t.seen Prod.fst)).fatal? = none) (number : Nat) :
    let p := LoopPass.of body (t.seen Prod.fst)
    ∃ u, tryPass site loop (logged body) number t = (.ok (p.failure?.map Failure.message), u) ∧
      u.progress = p.finish.progress ∧ u.world = (p.finish.world, t.world.2 ++ [p]) := by
  intro p
  have hpass : logged body t = (p.result, p.finish.paired (t.world.2 ++ [p])) := rfl
  unfold LoopPass.failure?
  rcases LoopPass.result_of_fatal?_eq_none h with hresult | ⟨failure, hresult, hstep⟩
  · rw [show p.result = _ from hresult] at hpass ⊢
    exact ⟨_, tryPass_ok hpass number, rfl, rfl⟩
  · have hattempt : attempt (logged body) t =
        (.ok (.error failure), p.finish.paired (t.world.2 ++ [p])) := by
      rw [attempt, hpass, show p.result = _ from hresult]
    rw [show p.result = _ from hresult, tryPass, bind_ok hattempt]
    dsimp only
    rw [if_pos hstep, if_pos hstep]
    exact ⟨_, rfl, rfl, rfl⟩

/-- An attempt at a pass that halts for good. -/
theorem tryPass_of_fatal?_eq_some {t : RunState (W × List (LoopPass W))} {halt : Halt}
    (h : (LoopPass.of body (t.seen Prod.fst)).fatal? = some halt) (number : Nat) :
    let p := LoopPass.of body (t.seen Prod.fst)
    tryPass site loop (logged body) number t =
      (.error halt, p.finish.paired (t.world.2 ++ [p])) := by
  intro p
  have hpass : logged body t = (p.result, p.finish.paired (t.world.2 ++ [p])) := rfl
  obtain ⟨hresult, hfatal⟩ := LoopPass.result_of_fatal?_eq_some h
  rw [show p.result = _ from hresult] at hpass
  cases halt with
  | failed failure =>
    have hattempt : attempt (logged body) t =
        (.ok (.error failure), p.finish.paired (t.world.2 ++ [p])) := by
      rw [attempt, hpass]
    rw [tryPass, bind_ok hattempt]
    dsimp only
    rw [if_neg (Bool.eq_false_iff.1 (hfatal failure rfl))]
    rfl
  | outOfFuel =>
    have hattempt : attempt (logged body) t =
        (.error .outOfFuel, p.finish.paired (t.world.2 ++ [p])) := by
      rw [attempt, hpass]
    rw [tryPass, bind_error hattempt]
  | panicked =>
    have hattempt : attempt (logged body) t =
        (.error .panicked, p.finish.paired (t.world.2 ++ [p])) := by
      rw [attempt, hpass]
    rw [tryPass, bind_error hattempt]

/-- Whether a pass succeeded is judged by the variables that it left. -/
theorem succeeded_eq {p : LoopPass W} (h : p.fatal? = none) {V : Type} {t : RunState V}
    (hvars : t.progress.vars = p.finish.progress.vars) :
    ∃ u, succeeded loop (p.failure?.map Failure.message).isNone t = (.ok (loop.succeeds p), u) ∧
      u.progress = t.progress ∧ u.world = t.world := by
  unfold succeeded RetryLoop.succeeds
  cases loop.stopWhen with
  | some condition =>
    dsimp only
    rw [← hvars]
    exact ⟨_, rfl, rfl, rfl⟩
  | none =>
    have hcompletes : (p.failure?.map Failure.message).isNone = p.completes := by
      unfold LoopPass.failure? LoopPass.completes
      rcases LoopPass.result_of_fatal?_eq_none h with hresult | ⟨failure, hresult, hstep⟩
      · rw [hresult]
        rfl
      · rw [hresult]
        dsimp only
        rw [if_pos hstep]
        rfl
    exact ⟨t, by rw [hcompletes]; rfl, rfl, rfl⟩

section Steps

variable {p : LoopPass W} {t : RunState (W × List (LoopPass W))} {done : Nat}
  (lastError : Option String)

/-- A pass that halts for good ends the loop. -/
theorem retryPasses_of_fatal?_eq_some (hlt : done < loop.maxAttempts)
    (hp : p = .of body ((t.opening done loop.attemptVar).seen Prod.fst)) {halt : Halt}
    (h : p.fatal? = some halt) :
    retryPasses site loop (logged body) (loop.maxAttempts - done) done lastError t =
      (.error halt, p.finish.paired (t.world.2 ++ [p])) := by
  subst hp
  rw [retryPasses_opens ⟨hlt, rfl⟩, bind_error (tryPass_of_fatal?_eq_some site loop h (done + 1))]
  rfl

/-- Any other pass is judged, and the loop ends or goes on. -/
theorem retryPasses_of_fatal?_eq_none (hlt : done < loop.maxAttempts)
    (hp : p = .of body ((t.opening done loop.attemptVar).seen Prod.fst)) (h : p.fatal? = none) :
    let lastError' := (p.failure?.map Failure.message).or lastError
    ∃ u, u.progress.vars = p.finish.progress.vars ∧ u.world.2 = t.world.2 ++ [p] ∧
      retryPasses site loop (logged body) (loop.maxAttempts - done) done lastError t =
        if loop.succeeds p = true ∨ p.Leaves
        then (.ok ⟨loop.succeeds p, done + 1, lastError'⟩, u)
        else retryPasses site loop (logged body) (loop.maxAttempts - (done + 1)) (done + 1)
          lastError' u := by
  intro lastError'
  obtain ⟨u, htry, huprogress, huworld⟩ := tryPass_of_fatal?_eq_none site loop
    (t := t.opening done loop.attemptVar) (hp ▸ h) (done + 1)
  rw [← hp] at htry huprogress huworld
  have huvars : u.quieted.progress.vars = p.finish.progress.vars := by
    rw [← huprogress]
    rfl
  obtain ⟨w, hsucceeded, hwprogress, hwworld⟩ := succeeded_eq loop h huvars
  refine ⟨w, by rw [hwprogress, huvars], ?_, ?_⟩
  · rw [hwworld]
    exact congrArg Prod.snd huworld
  · have hstops : ((loop.succeeds p || decide (u.progress.signal = .leave)) = true) =
        (loop.succeeds p = true ∨ p.Leaves) := by
      rw [huprogress, Bool.or_eq_true, decide_eq_true_iff]
      rfl
    rw [retryPasses_opens ⟨hlt, rfl⟩, bind_ok htry, bind_ok (takeSignal_apply u),
      bind_ok hsucceeded]
    by_cases hcond : loop.succeeds p = true ∨ p.Leaves
    · rw [if_pos hcond, if_pos (hstops ▸ hcond)]
      rfl
    · rw [if_neg hcond, if_neg (hstops ▸ hcond)]

end Steps

/-- What the loop comes to from between two passes on. -/
theorem ended_retryPasses (left : Nat) :
    ∀ (done : Nat) (lastError : Option String) (t : RunState (W × List (LoopPass W))),
      left + done = loop.maxAttempts → t.world.2.length = done →
      lastMessage t.world.2 = lastError →
      Between (·.progress.vars) first body (loop.Begins first) loop.GoesOn t →
        Ends (retryPasses site loop (logged body) left done lastError) t (fun r u =>
          Chained body (loop.Begins first) loop.GoesOn u.world.2 ∧ loop.Ended u.world.2 r) := by
  -- what the loop carries along is what can be read off the passes: their number and the last error
  induction left with
  | zero =>
    rintro done lastError t hdone hlength rfl ht
    refine ⟨ht.chained, ?_⟩
    show loop.Ended t.world.2 (.ok ⟨false, done, lastMessage t.world.2⟩)
    rw [← hlength]
    exact .spent (by omega) ht.goesOn
  | succ left ih =>
    rintro done lastError t hdone hlength rfl ht
    obtain ⟨p, hp⟩ : ∃ p, p = LoopPass.of body ((t.opening done loop.attemptVar).seen Prod.fst) :=
      ⟨_, rfl⟩
    have hran : body p.start = (p.result, p.finish) := by rw [hp]; rfl
    have hbegins : loop.Begins first t.world.2 p.start := by
      have hvars : t.progress.vars = (first.leftBy t.world.2).progress.vars := ht.left
      rw [RetryLoop.Begins, ← hvars, hlength, hp]
      exact t.vars_opening done loop.attemptVar
    have hchained := ht.chained.concat ht.goesOn hran hbegins
    have hlast : (t.world.2 ++ [p]).getLast? = some p := List.getLast?_concat
    have hlt : done < loop.maxAttempts := by omega
    have hleft : left + 1 = loop.maxAttempts - done := by omega
    rw [Ends, hleft]
    cases hfatal : p.fatal? with
    | some halt =>
      rw [retryPasses_of_fatal?_eq_some site loop _ hlt hp hfatal]
      exact ⟨hchained, .failed p halt hlast hfatal⟩
    | none =>
      obtain ⟨u, hvars, hlog, hpasses⟩ := retryPasses_of_fatal?_eq_none site loop
        (lastMessage t.world.2) hlt hp hfatal
      have hcount : done + 1 = u.world.2.length := by rw [hlog, List.length_append, hlength]; rfl
      rw [hpasses, ← lastMessage_concat, ← hlog]
      by_cases hstops : loop.succeeds p = true ∨ p.Leaves
      · rw [if_pos hstops, hcount]
        exact ⟨hlog ▸ hchained, .stopped p (hlog ▸ hlast) hfatal hstops⟩
      · have hgo : loop.GoesOn p :=
          ⟨hfatal, Bool.eq_false_iff.2 (not_or.1 hstops).1, (not_or.1 hstops).2⟩
        have hnext : left = loop.maxAttempts - (done + 1) := by omega
        rw [if_neg hstops, ← hnext]
        exact ih (done + 1) _ u (by omega) hcount.symm rfl
          (ht.next hran hbegins hgo hlog hvars)

/-- What a loop does when its attempts are over touches no world. -/
theorem ends_retryEnding (summary : RetrySummary) (s : RunState W) :
    Ends (do
      if summary.success then
        report (.info s!"[Loop] retry '{site.path}' succeeded on attempt {summary.attempts}")
      else if loop.maxAttempts ≤ summary.attempts then
        exhausted site loop.onExhausted "retry" summary.exhaustedDetail
      return summary.toValue : Run W Value) s
      (fun r t => r = loop.ending site.step summary ∧ t.world = s.world) := by
  refine ⟨retryEnding_apply loop site summary s, ?_⟩
  unfold exhausted
  split
  · rfl
  · split
    · split <;> rfl
    · rfl

/-- A loop of attempts goes by what its passes come to. -/
theorem ended_retryLoop (body : Run W Unit) (s : RunState W) :
    Ends (retryLoop site loop (logged body)) (s.paired []) (fun r u =>
      Chained body (loop.Begins s) loop.GoesOn u.world.2 ∧
        ∃ e, loop.Ended u.world.2 e ∧ r = e.bind (loop.ending site.step)) := by
  have hbegun : update (·.setTotal loop.maxAttempts)
      (entered site .retry [loop.attemptVar] (s.paired [])) =
      (.ok (), loop.begun site (s.paired ([] : List (LoopPass W)))) := rfl
  have hbetween : Between (·.progress.vars) s body (loop.Begins s) loop.GoesOn
      (loop.begun site (s.paired [])) :=
    ⟨chained_nil, fun _ hp => absurd hp List.not_mem_nil, vars_onFrame _ _⟩
  have hpasses := ended_retryPasses site loop loop.maxAttempts 0 none _ rfl rfl rfl hbetween
  refine ends_closed (Ends.bind_ok hbegun (Ends.bind hpasses ?_ ?_))
  · rintro summary t ⟨hchained, hended⟩
    refine (ends_retryEnding site loop summary t).mono ?_
    rintro r u ⟨rfl, hworld⟩
    rw [hworld]
    exact ⟨hchained, _, hended, rfl⟩
  · rintro halt t ⟨hchained, hended⟩
    exact ⟨hchained, _, hended, rfl⟩

/-! ## Results -/

variable {loop} {passes : List (LoopPass W)} {r : Except Halt RetrySummary}

/-- A pass that halts for good is the last, and the loop halts for what the pass did. -/
theorem ended_fatal (hc : Chained body (loop.Begins first) loop.GoesOn passes)
    (he : loop.Ended passes r) {k : Nat} {p : LoopPass W} {halt : Halt}
    (hk : passes[k]? = some p) (hp : p.fatal? = some halt) :
    passes.length = k + 1 ∧ r = .error halt := by
  have hstops : ¬ loop.GoesOn p := fun hgo => by
    rw [hgo.1] at hp
    cases hp
  have hlast := hc.getLast?_eq (List.mem_of_getElem? hk) hstops
  refine ⟨hc.length_eq hk hstops, ?_⟩
  cases he with
  | spent _ hgo => exact absurd (hgo p (List.mem_of_getElem? hk)) hstops
  | stopped q hq hfatal _ =>
    obtain rfl := Option.some.inj (hq.symm.trans hlast)
    rw [hfatal] at hp
    cases hp
  | failed q halt' hq hfatal =>
    obtain rfl := Option.some.inj (hq.symm.trans hlast)
    rw [Option.some.inj (hfatal.symm.trans hp)]

/-- If no pass halts for good or asks to leave, the loop comes to its end with the passes up to the
first that succeeds, or with all that it may have. -/
theorem ended_summary (he : loop.Ended passes r)
    (hpasses : ∀ p ∈ passes, p.fatal? = none ∧ ¬ p.Leaves) :
    r = .ok ⟨passes.any loop.succeeds, passes.length, lastMessage passes⟩ ∧
      (passes.any loop.succeeds = false → passes.length = loop.maxAttempts) := by
  cases he with
  | spent hlength hgo =>
    have hany : passes.any loop.succeeds = false :=
      List.any_eq_false.2 fun p hp => Bool.eq_false_iff.1 (hgo p hp).2.1
    rw [hany]
    exact ⟨rfl, fun _ => hlength⟩
  | stopped p hlast _ hstops =>
    have hmem := List.mem_of_getLast? hlast
    have hsucceeds := hstops.resolve_right (hpasses p hmem).2
    have hany : passes.any loop.succeeds = true := List.any_eq_true.2 ⟨p, hmem, hsucceeds⟩
    rw [hany, hsucceeds]
    exact ⟨rfl, fun h => by cases h⟩
  | failed p halt hlast hfatal =>
    rw [(hpasses p (List.mem_of_getLast? hlast)).1] at hfatal
    cases hfatal

/-- **What a loop of attempts does.**  The run of the loop is that of its passes, one after the
other: each is a run of the body that begins with the variables left by those before and with its
own number, whatever those before made of it.  A pass that halts other than by the failure of a step
is the last, and the loop halts for that.  If there is none, and no pass asks to leave, the first
pass that succeeds is the last, or else there are as many as there may be; and the loop comes to
its end with whether one succeeded, how many there were and why the last that failed did so, unless
none succeeded and the loop is to fail then. -/
theorem act_retry_attempts (env : Setting W) (step : Step Unit) (loop : RetryLoop) (body : Block)
    (path : String) (index : Nat) (s : RunState W) :
    let pass := block env body path
    let run := act env step (.retry loop body) path index s
    ∃ passes : List (LoopPass W),
      retryLoop ⟨step.name, index, path⟩ loop (logged pass) (s.paired []) =
        (run.1, run.2.paired passes) ∧
      (∀ k p, passes[k]? = some p →
        pass p.start = (p.result, p.finish) ∧
        p.start.progress.vars = (s.leftBy (passes.take k)).progress.vars.insert loop.attemptVar
          (.int (k + 1 : Nat)) ∧
        p.start.progress.vars.find? loop.attemptVar = some (.int (k + 1 : Nat))) ∧
      (∀ k p halt, passes[k]? = some p → p.fatal? = some halt →
        passes.length = k + 1 ∧ run.1 = .error halt) ∧
      ((∀ p ∈ passes, p.fatal? = none ∧ ¬ p.Leaves) →
        let summary : RetrySummary :=
          ⟨passes.any loop.succeeds, passes.length, lastMessage passes⟩
        (∀ k p, passes[k]? = some p → loop.succeeds p = true → passes.length = k + 1) ∧
        (summary.success = false → passes.length = loop.maxAttempts) ∧
        run.1 = if summary.success = false ∧ loop.onExhausted = .fail
          then .error (.failed (.loopExhausted step.name summary.exhaustedDetail))
          else .ok summary.toValue) := by
  intro pass run
  let site : LoopSite := ⟨step.name, index, path⟩
  have hact : retryLoop site loop pass s = run := by
    show _ = act env step (.retry loop body) path index s
    rw [act]
    rfl
  obtain ⟨passes, hrun, hchained, e, hended, hend⟩ :=
    (mirrors_retryLoop site pass loop).ends_paired (ended_retryLoop site loop pass s)
  rw [hact] at hrun hend
  rw [paired_snd] at hchained hended
  refine ⟨passes, hrun, ?_, ?_, ?_⟩
  · intro k p hk
    have hvars : p.start.progress.vars = _ := hchained.opened k p hk
    rw [length_take_of_getElem? hk] at hvars
    refine ⟨hchained.ran p (List.mem_of_getElem? hk), hvars, ?_⟩
    rw [hvars, KeyMap.find?_insert_self]
  · intro k p halt hk hp
    obtain ⟨hlength, rfl⟩ := ended_fatal hchained hended hk hp
    exact ⟨hlength, hend⟩
  · intro hpasses summary
    obtain ⟨rfl, hmost⟩ := ended_summary hended hpasses
    refine ⟨fun k p hk hp => hchained.length_eq hk fun hgo => ?_, hmost, ?_⟩
    · rw [hgo.2.1] at hp
      cases hp
    · rw [hend]
      show loop.ending step.name summary = _
      unfold RetryLoop.ending
      refine if_congr ⟨fun h => ⟨h.1, h.2.2⟩, fun h => ⟨h.1, ?_, h.2⟩⟩ rfl rfl
      exact Nat.le_of_eq (hmost h.1).symm

/-- Steps that write to the number of the pass, and of which the last fails in the first pass. -/
def spoiling : Block :=
  [⟨"keep", none, .stop, none, none, none, none, .set "m" (.string "{n}") false⟩,
    ⟨"spoil", none, .stop, none, none, none, none, .set "n" (.int 9) false⟩,
    ⟨"call", some "{m} == 1", .stop, none, none, none, none, .adapter "none" .null⟩]

/-- A loop of three attempts without a condition to stop at. -/
def threeAttempts : RetryLoop := ⟨3, 0, none, "n", .fail⟩

/-- The second of three attempts succeeds: it begins with its own number, and the failure of the
first is reported. -/
theorem act_retry_attempts_second : ∃ passes : List (LoopPass Unit),
    passes.length = 2 ∧
      (∀ (k : Nat) (p : LoopPass Unit), passes[k]? = some p →
        p.start.progress.vars.find? "n" = some (.int (k + 1 : Nat))) ∧
      (act (bareSetting 10) loopStep (.retry threeAttempts spoiling) "loop" 0 fresh).1 =
        .ok (RetrySummary.toValue ⟨true, 2, some "no adapters"⟩) := by
  obtain ⟨passes, hlog, hpasses, -, hends⟩ :=
    act_retry_attempts (bareSetting 10) loopStep threeAttempts spoiling "loop" 0 fresh
  obtain rfl : (retryLoop loopSite threeAttempts (logged (block (bareSetting 10) spoiling "loop"))
    (fresh.paired [])).2.world.2 = passes := congrArg (·.2.world.2) hlog
  obtain ⟨-, -, hend⟩ := hends (by decide +kernel)
  refine ⟨_, by decide +kernel, fun k p hk => (hpasses k p hk).2.2, ?_⟩
  rw [hend]
  decide +kernel

end Run

end Runbook
