import Mathlib.Order.Bounds.Basic
import Runbook.Proofs.Run.PassLog

/-!
# Passes while a condition holds

A loop while a condition holds tries the condition before each pass, and once more after the last
one that it may have.  This file says how many passes there are, what each begins with, and when the
loop counts as exhausted.

* `WhileLoop.holdsAfter` is the condition after so many passes;
* `WhileLoop.Ended` lists the ways in which the passes come to an end, and `ended_whilePasses` says
  that there are no others, by induction on the passes that are left;
* `WhileLoop.Ended.isLeast` counts the passes;
* `act_whilst_passes` is the result.
-/

namespace Runbook

variable {W : Type}

namespace WhileLoop

/-- Whether the condition holds in the state that passes leave. -/
def holdsAfter (loop : WhileLoop) (first : RunState W) (passes : List (LoopPass W)) : Bool :=
  Condition.evaluate (first.leftBy passes).progress.vars loop.condition

/-- The state that passes leave, once the condition was tried in it. -/
def triedAfter (loop : WhileLoop) (first : RunState W) (passes : List (LoopPass W)) : RunState W :=
  (Run.holds loop.condition (first.leftBy passes)).2

/-- A pass begins after others in a certain state: there may be one more, the condition was tried
and holds, and the number of the pass is bound. -/
def Begins (loop : WhileLoop) (first : RunState W) (passes : List (LoopPass W))
    (start : RunState W) : Prop :=
  passes.length < loop.maxPasses ∧ loop.holdsAfter first passes = true ∧
    start = (loop.triedAfter first passes).opening passes.length loop.counterVar

/-- The loop goes on after the pass. -/
def GoesOn (p : LoopPass W) : Prop := p.result = .ok () ∧ ¬ p.Leaves

/-- There are as many passes as there may be, none asked to leave, and the condition still holds. -/
def Exhausted (loop : WhileLoop) (first : RunState W) (passes : List (LoopPass W)) : Prop :=
  passes.length = loop.maxPasses ∧ (∀ p ∈ passes, ¬ p.Leaves) ∧ loop.holdsAfter first passes = true

instance (loop : WhileLoop) (first : RunState W) (passes : List (LoopPass W)) :
    Decidable (loop.Exhausted first passes) :=
  inferInstanceAs (Decidable (_ ∧ _ ∧ _))

/-- The numbers of passes after which the loop has a reason to end: there may be no more, the
condition does not hold, or the pass of this number asked to leave. -/
def stops (loop : WhileLoop) (first : RunState W) (passes : List (LoopPass W)) : Set Nat :=
  {n | n = loop.maxPasses ∨ loop.holdsAfter first (passes.take n) = false ∨
    ∃ k p, passes[k]? = some p ∧ p.Leaves ∧ n = k + 1}

/-- What the loop reports when it is exhausted and goes on. -/
def exhaustedNote (loop : WhileLoop) (path : String) : Event :=
  .note (.warn
    s!"[Loop] while '{path}' exhausted: {Run.WhileLoop.exhaustedDetail loop}, continuing")

/-- How the loop ends: it fails if it is exhausted and is to fail then. -/
def ending (loop : WhileLoop) (step : String) (summary : Run.WhileSummary) : Except Halt Value :=
  if summary.exhausted = true ∧ loop.onExhausted = .fail
  then .error (.failed (.loopExhausted step (Run.WhileLoop.exhaustedDetail loop)))
  else .ok summary.toValue

/-- What the loop reports in the end. -/
def endingNotes (loop : WhileLoop) (path : String) (summary : Run.WhileSummary) : List Event :=
  if summary.exhausted = true ∧ loop.onExhausted = .goOn then [loop.exhaustedNote path] else []

/-- The ways in which the passes of a loop come to an end, and the states in which it is then. -/
inductive Ended (loop : WhileLoop) (first : RunState W) (passes : List (LoopPass W)) :
    Except Halt Run.WhileSummary → RunState W → Prop
  /-- The condition was tried and does not hold. -/
  | lapsed (hgo : ∀ p ∈ passes, GoesOn p) (hfalse : loop.holdsAfter first passes = false) :
    Ended loop first passes (.ok ⟨passes.length, false⟩) (loop.triedAfter first passes)
  /-- The condition was tried and holds, but no passes are left. -/
  | spent (hgo : ∀ p ∈ passes, GoesOn p) (hlength : passes.length = loop.maxPasses)
    (htrue : loop.holdsAfter first passes = true) :
    Ended loop first passes (.ok ⟨passes.length, true⟩) (loop.triedAfter first passes)
  /-- The last pass asked to leave the loop. -/
  | left (p : LoopPass W) (hlast : passes.getLast? = some p) (hok : p.result = .ok ())
    (hleaves : p.Leaves) :
    Ended loop first passes (.ok ⟨passes.length, false⟩) (first.leftBy passes)
  /-- The last pass halted. -/
  | failed (p : LoopPass W) (halt : Halt) (hlast : passes.getLast? = some p)
    (hhalt : p.result = .error halt) : Ended loop first passes (.error halt) p.finish

end WhileLoop

namespace Run

open Portion

variable {site : LoopSite} {loop : WhileLoop} {body : Run W Unit} {first : RunState W}

section Steps

variable {p : LoopPass W} {t : RunState (W × List (LoopPass W))} {done : Nat}

/-- A loop whose condition does not hold ends. -/
theorem whilePasses_lapsed {pass : Run W Unit} {s : RunState W} {left : Nat}
    (h : Condition.evaluate s.progress.vars loop.condition = false) :
    whilePasses loop pass left done s = (.ok ⟨done, false⟩, (holds loop.condition s).2) := by
  have hholds : holds loop.condition s = (.ok false, (holds loop.condition s).2) := by
    rw [← h]
    rfl
  unfold whilePasses
  rw [bind_ok hholds]
  rfl

/-- So does a loop without passes left. -/
theorem whilePasses_spent {pass : Run W Unit} {s : RunState W}
    (h : Condition.evaluate s.progress.vars loop.condition = true) :
    whilePasses loop pass 0 done s = (.ok ⟨done, true⟩, (holds loop.condition s).2) := by
  have hholds : holds loop.condition s = (.ok true, (holds loop.condition s).2) := by
    rw [← h]
    rfl
  rw [whilePasses, bind_ok hholds]
  rfl

/-- Otherwise there is one more pass. -/
theorem whilePasses_logged (hlt : done < loop.maxPasses)
    (h : Condition.evaluate t.progress.vars loop.condition = true)
    (hp : p = .of body
      ((holds loop.condition (t.seen Prod.fst)).2.opening done loop.counterVar)) :
    whilePasses loop (logged body) (loop.maxPasses - done) done t =
      match p.result with
      | .error halt => (.error halt, p.finish.paired (t.world.2 ++ [p]))
      | .ok () =>
        if p.Leaves then (.ok ⟨done + 1, false⟩, p.finish.quieted.paired (t.world.2 ++ [p]))
        else whilePasses loop (logged body) (loop.maxPasses - (done + 1)) (done + 1)
          (p.finish.quieted.paired (t.world.2 ++ [p])) := by
  obtain ⟨u, hu⟩ : ∃ u, u = (holds loop.condition t).2.opening done loop.counterVar := ⟨_, rfl⟩
  have hholds : holds loop.condition t = (.ok true, (holds loop.condition t).2) := by
    rw [← h]
    rfl
  have hpass : logged body u = (p.result, p.finish.paired (t.world.2 ++ [p])) := by
    rw [hp, hu]
    rfl
  rw [whilePasses_opens ⟨hlt, _, hholds, hu⟩]
  cases hresult : p.result with
  | error halt => rw [bind_error (hresult ▸ hpass)]
  | ok _ =>
    rw [bind_ok (hresult ▸ hpass), bind_ok (takeSignal_apply _)]
    by_cases hleaves : p.Leaves
    · rw [if_pos hleaves, if_pos (show (p.finish.paired _).progress.signal = .leave from hleaves)]
      rfl
    · rw [if_neg hleaves,
        if_neg (show ¬ (p.finish.paired _).progress.signal = .leave from hleaves)]
      rfl

end Steps

/-- Between two passes, the condition holds if it holds after the passes so far. -/
theorem evaluate_between {t : RunState (W × List (LoopPass W))} {goesOn : LoopPass W → Prop}
    {opens : List (LoopPass W) → RunState W → Prop} (h : Between id first body opens goesOn t)
    (loop : WhileLoop) :
    Condition.evaluate t.progress.vars loop.condition = loop.holdsAfter first t.world.2 := by
  have hleft : t.seen Prod.fst = first.leftBy t.world.2 := h.left
  rw [WhileLoop.holdsAfter, ← hleft]
  rfl

theorem holds_between {t : RunState (W × List (LoopPass W))} {goesOn : LoopPass W → Prop}
    {opens : List (LoopPass W) → RunState W → Prop} (h : Between id first body opens goesOn t)
    (loop : WhileLoop) :
    (holds loop.condition t).2.seen Prod.fst = loop.triedAfter first t.world.2 := by
  have hleft : t.seen Prod.fst = first.leftBy t.world.2 := h.left
  rw [WhileLoop.triedAfter, ← hleft]
  rfl

/-- What the loop comes to from between two passes on. -/
theorem ended_whilePasses (left : Nat) :
    ∀ (done : Nat) (t : RunState (W × List (LoopPass W))),
      left + done = loop.maxPasses → t.world.2.length = done →
      Between id first body (loop.Begins first) WhileLoop.GoesOn t →
        Ends (whilePasses loop (logged body) left done) t (fun r u =>
          Chained body (loop.Begins first) WhileLoop.GoesOn u.world.2 ∧
            loop.Ended first u.world.2 r (u.seen Prod.fst)) := by
  -- the condition is tried before it is looked whether passes are left, so both cases try it
  induction left with
  | zero =>
    rintro _ t hdone rfl ht
    have hholds := evaluate_between ht loop
    cases hc : loop.holdsAfter first t.world.2 with
    | false =>
      rw [Ends, whilePasses_lapsed (hholds.trans hc)]
      exact ⟨ht.chained, (holds_between ht loop) ▸ .lapsed ht.goesOn hc⟩
    | true =>
      have hlength : t.world.2.length = loop.maxPasses := by omega
      rw [Ends, whilePasses_spent (hholds.trans hc)]
      exact ⟨ht.chained, (holds_between ht loop) ▸ .spent ht.goesOn hlength hc⟩
  | succ left ih =>
    rintro _ t hdone rfl ht
    have hholds := evaluate_between ht loop
    cases hc : loop.holdsAfter first t.world.2 with
    | false =>
      rw [Ends, whilePasses_lapsed (hholds.trans hc)]
      exact ⟨ht.chained, (holds_between ht loop) ▸ .lapsed ht.goesOn hc⟩
    | true =>
      have hlt : t.world.2.length < loop.maxPasses := by omega
      have hleft : left + 1 = loop.maxPasses - t.world.2.length := by omega
      have hnext : left = loop.maxPasses - (t.world.2.length + 1) := by omega
      obtain ⟨p, hp⟩ : ∃ p, p = LoopPass.of body
        ((holds loop.condition (t.seen Prod.fst)).2.opening t.world.2.length loop.counterVar) :=
        ⟨_, rfl⟩
      have hran : body p.start = (p.result, p.finish) := by rw [hp]; rfl
      have hbegins : loop.Begins first t.world.2 p.start := by
        refine ⟨hlt, hc, ?_⟩
        rw [← holds_between ht loop, hp]
        rfl
      have hchained := ht.chained.concat ht.goesOn hran hbegins
      have hlast : (t.world.2 ++ [p]).getLast? = some p := List.getLast?_concat
      have hcount : (t.world.2 ++ [p]).length = t.world.2.length + 1 := List.length_append
      rw [Ends, hleft, whilePasses_logged hlt (hholds.trans hc) hp]
      cases hresult : p.result with
      | error halt => exact ⟨hchained, .failed p halt hlast hresult⟩
      | ok _ =>
        dsimp only
        by_cases hleaves : p.Leaves
        · rw [if_pos hleaves, ← hcount]
          have hend : loop.Ended first (t.world.2 ++ [p])
            (.ok ⟨(t.world.2 ++ [p]).length, false⟩) (first.leftBy (t.world.2 ++ [p])) :=
            .left p hlast hresult hleaves
          rw [RunState.leftBy_concat] at hend
          exact ⟨hchained, hend⟩
        · rw [if_neg hleaves, ← hnext]
          exact ih _ _ (by omega) hcount (ht.next hran hbegins ⟨hresult, hleaves⟩ rfl rfl)

/-- What a loop does when its passes are over. -/
theorem ends_whileEnding (summary : WhileSummary) (s : RunState W) :
    Ends (do
      if summary.exhausted then
        exhausted site loop.onExhausted "while" (WhileLoop.exhaustedDetail loop)
      return summary.toValue : Run W Value) s
      (fun r t => r = loop.ending site.step summary ∧ t.world = s.world ∧
        t.events = loop.endingNotes site.path summary ++ s.events) := by
  unfold WhileLoop.ending WhileLoop.endingNotes exhausted
  cases summary.exhausted with
  | false => exact ⟨rfl, rfl, rfl⟩
  | true => cases loop.onExhausted <;> exact ⟨rfl, rfl, rfl⟩

/-- A loop while a condition holds goes by what its passes come to. -/
theorem ended_whileLoop (site : LoopSite) (loop : WhileLoop) (body : Run W Unit)
    (s : RunState W) :
    let first := entered site .whilst [loop.counterVar] s
    Ends (whileLoop site loop (logged body)) (s.paired []) (fun r u =>
      Chained body (loop.Begins first) WhileLoop.GoesOn u.world.2 ∧
        ∃ e t, loop.Ended first u.world.2 e t ∧ r = e.bind (loop.ending site.step) ∧
          ∀ summary, e = .ok summary →
            u.events = loop.endingNotes site.path summary ++ t.events) := by
  intro first
  have hbetween : Between id first body (loop.Begins first) WhileLoop.GoesOn
      (entered site .whilst [loop.counterVar] (s.paired [])) :=
    ⟨chained_nil, fun _ hp => absurd hp List.not_mem_nil, rfl⟩
  have hpasses := ended_whilePasses loop.maxPasses 0 _ rfl rfl hbetween
  refine ends_closed (Ends.bind hpasses ?_ ?_)
  · rintro summary t ⟨hchained, hended⟩
    refine (ends_whileEnding summary t).mono ?_
    rintro r u ⟨rfl, hworld, hevents⟩
    dsimp only
    rw [hworld]
    refine ⟨hchained, _, _, hended, rfl, fun _ he => ?_⟩
    cases he
    exact hevents
  · rintro halt t ⟨hchained, hended⟩
    exact ⟨hchained, _, _, hended, rfl, fun _ he => by cases he⟩

/-! ## Results -/

variable {passes : List (LoopPass W)} {r : Except Halt WhileSummary} {u : RunState W}

/-- There are no more passes than there may be. -/
theorem whilst_length_le
    (hc : Chained body (loop.Begins first) WhileLoop.GoesOn passes) :
    passes.length ≤ loop.maxPasses := by
  rcases Nat.eq_zero_or_pos passes.length with hnone | hsome
  · omega
  · obtain ⟨hlt, -⟩ := hc.opened (passes.length - 1) _
      (List.getElem?_eq_getElem (Nat.sub_lt hsome Nat.one_pos))
    rw [List.length_take_of_le (Nat.sub_le _ _)] at hlt
    omega

/-- The loop ends as soon as it has a reason to. -/
theorem isLeast_stops (hc : Chained body (loop.Begins first) WhileLoop.GoesOn passes)
    (he : loop.Ended first passes r u) (hok : ∀ p ∈ passes, p.result = .ok ()) :
    IsLeast (loop.stops first passes) passes.length := by
  constructor
  · cases he with
    | lapsed _ hfalse => exact .inr (.inl (by rwa [List.take_length]))
    | spent _ hlength _ => exact .inl hlength
    | left p hlast _ hleaves =>
      rw [List.getLast?_eq_getElem?] at hlast
      have hlt := (List.getElem?_eq_some_iff.1 hlast).1
      exact .inr (.inr ⟨_, p, hlast, hleaves, by omega⟩)
    | failed p halt hlast hhalt =>
      rw [hok p (List.mem_of_getLast? hlast)] at hhalt
      cases hhalt
  · rintro n (rfl | hfalse | ⟨k, p, hk, hleaves, rfl⟩)
    · exact whilst_length_le hc
    · by_contra hlt
      obtain ⟨-, htrue, -⟩ := hc.opened n _ (List.getElem?_eq_getElem (Nat.not_le.1 hlt))
      rw [hfalse] at htrue
      cases htrue
    · exact Nat.le_of_eq (hc.length_eq hk fun hgo => hgo.2 hleaves)

/-- If no pass halts, the loop comes to its end with the number of the passes and whether it is
exhausted.  Unless a pass asked to leave, the condition was tried after all of them. -/
theorem whilst_summary (he : loop.Ended first passes r u)
    (hok : ∀ p ∈ passes, p.result = .ok ()) :
    r = .ok ⟨passes.length, loop.Exhausted first passes⟩ ∧
      ((∀ p ∈ passes, ¬ p.Leaves) → u = loop.triedAfter first passes) := by
  cases he with
  | lapsed _ hfalse =>
    have hnot : ¬ loop.Exhausted first passes := fun h => by
      have htrue := h.2.2
      rw [hfalse] at htrue
      cases htrue
    rw [decide_eq_false hnot]
    exact ⟨rfl, fun _ => rfl⟩
  | spent hgo hlength htrue =>
    have hexhausted : loop.Exhausted first passes := ⟨hlength, fun p hp => (hgo p hp).2, htrue⟩
    rw [decide_eq_true hexhausted]
    exact ⟨rfl, fun _ => rfl⟩
  | left p hlast _ hleaves =>
    have hmem := List.mem_of_getLast? hlast
    have hnot : ¬ loop.Exhausted first passes := fun h => h.2.1 p hmem hleaves
    rw [decide_eq_false hnot]
    exact ⟨rfl, fun h => absurd hleaves (h p hmem)⟩
  | failed p halt hlast hhalt =>
    rw [hok p (List.mem_of_getLast? hlast)] at hhalt
    cases hhalt

/-- **What a loop while a condition holds does.**  The run of the loop is that of its passes, one
after the other: each is a run of the body that begins where those before left off, with the
condition tried there, which holds, and with its own number, whatever those before made of it.  If
no pass halts, their number is the first at which there may be no more, the condition does not
hold, or the pass asks to leave.  The loop is exhausted if there may be no more, none asked to leave
and the condition, which is then tried once more, still holds.  It fails for that if it is to fail
then, and in all other cases it comes to its end with the number of the passes and whether it is
exhausted. -/
theorem act_whilst_passes (env : Setting W) (step : Step Unit) (loop : WhileLoop) (body : Block)
    (path : String) (index : Nat) (s : RunState W) :
    let pass := block env body path
    let run := act env step (.whilst loop body) path index s
    let site : LoopSite := ⟨step.name, index, path⟩
    let first := entered site .whilst [loop.counterVar] s
    ∃ passes : List (LoopPass W),
      whileLoop site loop (logged pass) (s.paired []) = (run.1, run.2.paired passes) ∧
      (∀ k p, passes[k]? = some p →
        pass p.start = (p.result, p.finish) ∧
        loop.holdsAfter first (passes.take k) = true ∧
        p.start = (loop.triedAfter first (passes.take k)).opening k loop.counterVar ∧
        p.start.progress.vars.find? loop.counterVar = some (.int (k + 1 : Nat))) ∧
      ((∀ p ∈ passes, p.result = .ok ()) →
        let summary : WhileSummary := ⟨passes.length, loop.Exhausted first passes⟩
        IsLeast (loop.stops first passes) passes.length ∧
        run.1 = (if summary.exhausted = true ∧ loop.onExhausted = .fail
          then .error (.failed (.loopExhausted step.name (WhileLoop.exhaustedDetail loop)))
          else .ok summary.toValue) ∧
        ((∀ p ∈ passes, ¬ p.Leaves) →
          run.2.events =
            loop.endingNotes path summary ++ (loop.triedAfter first passes).events)) := by
  intro pass run site first
  have hact : whileLoop site loop pass s = run := by
    show _ = act env step (.whilst loop body) path index s
    rw [act]
    rfl
  obtain ⟨passes, hrun, hchained, e, t, hended, hresult, hevents⟩ :=
    (mirrors_whileLoop site pass loop).ends_paired (ended_whileLoop site loop pass s)
  rw [hact] at hrun hresult hevents
  rw [paired_snd] at hchained hended
  refine ⟨passes, hrun, ?_, ?_⟩
  · intro k p hk
    obtain ⟨-, hholds, hstart⟩ := hchained.opened k p hk
    rw [length_take_of_getElem? hk] at hstart
    refine ⟨hchained.ran p (List.mem_of_getElem? hk), hholds, hstart, ?_⟩
    rw [hstart, RunState.vars_opening, KeyMap.find?_insert_self]
  · intro hok summary
    obtain ⟨rfl, htried⟩ := whilst_summary hended hok
    refine ⟨isLeast_stops hchained hended hok, hresult, fun hstay => ?_⟩
    rw [← htried hstay]
    exact hevents _ rfl

/-- A step that writes to the number of the pass. -/
def overwriting : Block :=
  [⟨"spoil", none, .stop, none, none, none, none, .set "n" (.int 9) false⟩]

/-- A loop of two passes at most, which goes on when it is exhausted. -/
def atMostTwice : WhileLoop := ⟨"{n} != 3", 2, "n", .goOn⟩

/-- Both passes begin with their own number, and the loop is exhausted after them. -/
theorem act_whilst_passes_exhausted : ∃ passes : List (LoopPass Unit),
    passes.length = 2 ∧
      (∀ (k : Nat) (p : LoopPass Unit), passes[k]? = some p →
        p.start.progress.vars.find? "n" = some (.int (k + 1 : Nat))) ∧
      (act (bareSetting 10) loopStep (.whilst atMostTwice overwriting) "loop" 0 fresh).1 =
        .ok (WhileSummary.toValue ⟨2, true⟩) := by
  obtain ⟨passes, hlog, hpasses, hends⟩ :=
    act_whilst_passes (bareSetting 10) loopStep atMostTwice overwriting "loop" 0 fresh
  obtain rfl : (whileLoop loopSite atMostTwice
    (logged (block (bareSetting 10) overwriting "loop")) (fresh.paired [])).2.world.2 = passes :=
    congrArg (·.2.world.2) hlog
  obtain ⟨-, hend, -⟩ := hends (by decide +kernel)
  refine ⟨_, by decide +kernel, fun k p hk => (hpasses k p hk).2.2.2, ?_⟩
  rw [hend]
  decide +kernel

end Run

end Runbook
