import Runbook.Proofs.Run.Orderly

/-!
# Passes of orderly loops

A loop whose passes are orderly is orderly itself: each pass that begins is one that the loop has,
and what a pass asks of the loop is done before the next one begins.

* `PassEnds` is what a loop relies on in a pass, and `passEnds_of_endsWell` says that a list of
  steps that ends well is such a pass;
* `PassEnds.then` is the step from one pass to what follows it;
* `keepsReady_foreachLoop` to `keepsReady_retryLoop` are the four kinds of loops.
-/

namespace Runbook.Run

open Portion

variable {W α β : Type} {base : List Frame} {names : List String} {inLoop : Bool} {tag : LoopTag}
  {around : List LoopTag} {total : Option Nat} {s : RunState (W × History)}

/-- A pass leaves the loop in control, and asks nothing of it when it fails. -/
def PassEnds (base : List Frame) (tag : LoopTag) (around : List LoopTag)
    (pass : Run (W × History) α) : Prop :=
  ∀ total s, AtPass base tag around total s → Ends pass s (fun r t =>
    InFrame base tag around total t ∧
      ∀ halt, r = .error halt → halt.OfRun ∧ t.progress.signal = .quiet)

/-- Steps that end well inside a loop, and leave its frame alone, are a pass of it. -/
theorem passEnds_of_endsWell {pass : Run (W × History) Unit} (hl : KeepsLoops pass)
    (h : ∀ s, Ready base (tag :: around) s → Ends pass s (EndsWell base [] true (tag :: around))) :
    PassEnds base tag around pass := by
  intro total s ⟨hready, hframe⟩
  -- ending well says which loops are active; that the total of this one is the same takes `hl`
  refine Ends.mono ((h s hready).and (hl s)) ?_
  rintro r t ⟨hr, ht : t.progress.loops = s.progress.loops, -⟩
  cases r with
  | error halt =>
    obtain ⟨hof, hend⟩ := hr
    exact ⟨⟨hend.idle.2, ht ▸ hframe.frames, hend.orderly⟩,
      fun h' he => by cases he; exact ⟨hof, hend.idle.1⟩⟩
  | ok a =>
    have hend : Done base [] true (tag :: around) t := hr
    exact ⟨⟨hend.jump_eq_none, ht ▸ hframe.frames, hend.orderly⟩, fun _ he => by cases he⟩

/-- Once a pass is over and its signal is taken, the loop is between two passes again. -/
theorem PassEnds.then {pass : Run (W × History) α} {k : α → Signal → Run (W × History) β}
    (hp : PassEnds base tag around pass) (hs : AtPass base tag around total s)
    (hk : ∀ a signal t, Resting base tag around total t →
      Ends (k a signal) t (LoopEnds base tag around)) :
    Ends (pass >>= fun a => takeSignal >>= k a) s (LoopEnds base tag around) := by
  refine Ends.bind (hp total s hs) ?_ ?_
  · rintro a t ⟨ht, -⟩
    exact hk a t.progress.signal { t with progress := t.progress.setSignal .quiet }
      ⟨⟨ht.jump, ht.frames, ht.orderly⟩, rfl⟩
  · rintro halt t ⟨ht, he⟩
    obtain ⟨hof, hsignal⟩ := he halt rfl
    exact ⟨⟨total, ht, hsignal⟩, fun h' hh => by cases hh; exact hof⟩

/-! ## Between passes -/

/-- A loop that goes on with a part that does not touch what the run goes by. -/
theorem loopEnds_bind {part : Run (W × History) α} {f : α → Run (W × History) β}
    (hq : WatchedQuiet part) (hs : Resting base tag around total s)
    (hf : ∀ a t, Resting base tag around total t → Ends (f a) t (LoopEnds base tag around)) :
    Ends (part >>= f) s (LoopEnds base tag around) :=
  (keeps_resting hq).bind_ends hs hf fun _ _ ht he =>
    ⟨⟨total, ht⟩, fun _ hh => by cases hh; exact he⟩

theorem loopEnds_pure (hs : Resting base tag around total s) (a : α) :
    Ends (pure a : Run (W × History) α) s (LoopEnds base tag around) :=
  ⟨⟨total, hs⟩, fun _ he => by cases he⟩

/-- A loop that goes on after its passes. -/
theorem loopEnds_then {part : Run (W × History) α} {f : α → Run (W × History) β}
    (h : Ends part s (LoopEnds base tag around))
    (hf : ∀ a total t, Resting base tag around total t → Ends (f a) t (LoopEnds base tag around)) :
    Ends (part >>= f) s (LoopEnds base tag around) :=
  Ends.bind h (fun a t ⟨⟨total, ht⟩, _⟩ => hf a total t ht) fun _ _ ⟨ht, he⟩ =>
    ⟨ht, fun _ hh => by cases hh; exact he _ rfl⟩

theorem loopEnds_setCursor {f : Unit → Run (W × History) β} {cursor : Nat}
    (hs : Resting base tag around total s) (hc : ∀ n, total = some n → cursor < n)
    (hf : ∀ t, AtPass base tag around total t → Ends (f ()) t (LoopEnds base tag around)) :
    Ends (update (·.setCursor cursor) >>= f) s (LoopEnds base tag around) :=
  Ends.bind (setCursor_ends hs hc) (fun _ t ht => hf t ht.1) fun _ _ ht => by cases ht.2

theorem loopEnds_setTotal {f : Unit → Run (W × History) β} (n : Nat)
    (hs : Resting base tag around total s)
    (hf : ∀ t, Resting base tag around (some n) t → Ends (f ()) t (LoopEnds base tag around)) :
    Ends (update (·.setTotal n) >>= f) s (LoopEnds base tag around) :=
  Ends.bind (setTotal_ends hs n) (fun _ t ht => hf t ht.1) fun _ _ ht => by cases ht.2

/-- A variable is bound after the pass is noted. -/
theorem loopEnds_bindVar {f : Unit → Run (W × History) β} (name : String) (value : Value)
    (hs : AtPass base tag around total s)
    (hf : ∀ t, AtPass base tag around total t → Ends (f ()) t (LoopEnds base tag around)) :
    Ends (bindVar name value >>= f) s (LoopEnds base tag around) := by
  refine Ends.bind (keeps_atPass (steady_bindVar name value) s hs) (fun _ t ht => hf t ht.1) ?_
  rintro halt t ⟨ht, he⟩
  exact ⟨⟨total, ht.2, ht.1.idle.1⟩, fun h' hh => by cases hh; exact he halt rfl⟩

/-! ## From pass to pass -/

theorem loopEnds_foreachPasses {pass : Run (W × History) Unit} (hp : PassEnds base tag around pass)
    (site : LoopSite) (loop : ForeachLoop) {n : Nat} (items : List Value) :
    ∀ (index : Nat) (s : RunState (W × History)), index + items.length ≤ n →
      Resting base tag around (some n) s →
        Ends (foreachPasses site loop pass index items) s (LoopEnds base tag around) := by
  -- the passes that are over and those that are left are not more than there are
  induction items with
  | nil => intro index s _ hs; exact loopEnds_pure hs _
  | cons item rest ih =>
    intro index s hn hs
    rw [List.length_cons] at hn
    refine loopEnds_bind (steady_bindItem _ _ _) hs fun _ s hs => ?_
    refine loopEnds_setCursor hs (fun m hm => by cases hm; omega) fun s hs => ?_
    refine hp.then hs fun _ signal s hs => ?_
    refine Ends.ite (fun _ => ?_) fun _ => ?_
    · exact loopEnds_pure hs _
    · refine loopEnds_bind (steady_holdsIf _) hs fun stop s hs => ?_
      refine Ends.ite (fun _ => ?_) fun _ => ?_
      · exact loopEnds_bind (steady_emit _) hs fun _ s hs => loopEnds_pure hs _
      · exact ih (index + 1) s (by omega) hs

theorem loopEnds_whilePasses {pass : Run (W × History) Unit} (hp : PassEnds base tag around pass)
    (loop : WhileLoop) (left : Nat) :
    ∀ (done : Nat) (s : RunState (W × History)), Resting base tag around none s →
      Ends (whilePasses loop pass left done) s (LoopEnds base tag around) := by
  induction left with
  | zero =>
    intro done s hs
    rw [whilePasses]
    refine loopEnds_bind (steady_holds _) hs fun holds s hs => ?_
    refine Ends.ite (fun _ => ?_) fun _ => ?_
    · exact loopEnds_pure hs _
    · exact loopEnds_pure hs _
  | succ left ih =>
    intro done s hs
    rw [whilePasses]
    refine loopEnds_bind (steady_holds _) hs fun holds s hs => ?_
    refine Ends.ite (fun _ => ?_) fun _ => ?_
    · exact loopEnds_pure hs _
    · refine loopEnds_setCursor hs (fun m hm => by cases hm) fun s hs => ?_
      refine loopEnds_bindVar _ _ hs fun s hs => hp.then hs fun _ signal s hs => ?_
      refine Ends.ite (fun _ => ?_) fun _ => ?_
      · exact loopEnds_pure hs _
      · exact ih (done + 1) s hs

theorem loopEnds_rangePasses {pass : Run (W × History) Unit} (hp : PassEnds base tag around pass)
    (loop : RangeLoop) (first : Int) {n : Nat} (left : Nat) :
    ∀ (done : Nat) (s : RunState (W × History)), done + left ≤ n →
      Resting base tag around (some n) s →
        Ends (rangePasses loop first pass left done) s (LoopEnds base tag around) := by
  induction left with
  | zero => intro done s _ hs; exact loopEnds_pure hs _
  | succ left ih =>
    intro done s hn hs
    refine loopEnds_bind (steady_bindVar _ _) hs fun _ s hs => ?_
    refine loopEnds_setCursor hs (fun m hm => by cases hm; omega) fun s hs => ?_
    refine hp.then hs fun _ signal s hs => ?_
    refine Ends.ite (fun _ => ?_) fun _ => ?_
    · exact loopEnds_pure hs _
    · exact ih (done + 1) s (by omega) hs

/-- An attempt is a pass whose step failures are results. -/
theorem passEnds_tryPass {pass : Run (W × History) Unit} (hp : PassEnds base tag around pass)
    (site : LoopSite) (loop : RetryLoop) (number : Nat) :
    PassEnds base tag around (tryPass site loop pass number) := by
  intro total s hs
  refine Ends.bind (ends_attempt (hp total s hs)) ?_ fun halt t ht =>
    ⟨ht.1, fun h' hh => by cases hh; exact ht.2 _ rfl⟩
  intro r t ht
  match r, ht with
  | .ok (), ht => exact ⟨ht.1, fun _ he => by cases he⟩
  | .error failure, ht =>
    obtain ⟨hof, hsignal⟩ := ht.2 _ rfl
    have hrest : Resting base tag around total t := ⟨ht.1, hsignal⟩
    refine Ends.ite (fun _ => ?_) fun _ => ?_
    · refine (keeps_resting (steady_emit _)).bind_ends hrest (fun _ t ht => ?_)
        fun halt t ht he => ⟨ht.1, fun h' hh => by cases hh; exact ⟨he, ht.2⟩⟩
      exact ⟨ht.1, fun _ hh => by cases hh⟩
    · exact ⟨ht.1, fun halt hh => by cases hh; exact ⟨hof, hsignal⟩⟩

theorem loopEnds_retryPasses {pass : Run (W × History) Unit} (hp : PassEnds base tag around pass)
    (site : LoopSite) (loop : RetryLoop) {n : Nat} (left : Nat) :
    ∀ (done : Nat) (lastError : Option String) (s : RunState (W × History)), done + left ≤ n →
      Resting base tag around (some n) s →
        Ends (retryPasses site loop pass left done lastError) s (LoopEnds base tag around) := by
  induction left with
  | zero => intro done lastError s _ hs; exact loopEnds_pure hs _
  | succ left ih =>
    intro done lastError s hn hs
    refine loopEnds_setCursor hs (fun m hm => by cases hm; omega) fun s hs => ?_
    refine loopEnds_bindVar _ _ hs fun s hs => ?_
    refine (passEnds_tryPass hp _ _ _).then hs fun error signal s hs => ?_
    refine loopEnds_bind (steady_succeeded _ _) hs fun success s hs => ?_
    refine Ends.ite (fun _ => ?_) fun _ => ?_
    · exact loopEnds_pure hs _
    · exact ih (done + 1) _ s (by omega) hs

/-! ## Loops -/

/-- What a loop does after its last pass. -/
theorem loopEnds_ite {c : Prop} [Decidable c] {part : Run (W × History) Unit}
    {f : Unit → Run (W × History) β} (hq : WatchedQuiet part)
    (hs : Resting base tag around total s)
    (hf : ∀ t, Resting base tag around total t → Ends (f ()) t (LoopEnds base tag around)) :
    Ends (if c then part >>= f else f ()) s (LoopEnds base tag around) := by
  split
  · exact loopEnds_bind hq hs fun _ t ht => hf t ht
  · exact hf s hs

theorem keepsReady_foreachLoop {sorter : Sorter} {pass : Run (W × History) Unit}
    (site : LoopSite) (loop : ForeachLoop)
    (hp : PassEnds base ⟨.iteration, site.step, site.index⟩ around pass) :
    Keeps (Ready base around) Halt.OfRun (foreachLoop sorter site loop pass) := by
  intro s hs
  refine inFrame_ready hs fun s hs => ?_
  refine loopEnds_bind (steady_itemsOf _ _ _) hs fun items s hs => ?_
  refine loopEnds_setTotal items.length hs fun s hs => ?_
  refine loopEnds_bind (steady_emit _) hs fun _ s hs => ?_
  refine loopEnds_then (loopEnds_foreachPasses hp site loop items 0 s (by omega) hs) ?_
  exact fun summary total s hs => loopEnds_pure hs _

theorem keepsReady_whileLoop {pass : Run (W × History) Unit} (site : LoopSite)
    (loop : WhileLoop) (hp : PassEnds base ⟨.whilst, site.step, site.index⟩ around pass) :
    Keeps (Ready base around) Halt.OfRun (whileLoop site loop pass) := by
  intro s hs
  refine inFrame_ready hs fun s hs => ?_
  refine loopEnds_then (loopEnds_whilePasses hp loop loop.maxPasses 0 s hs)
    fun summary total s hs => ?_
  exact loopEnds_ite (steady_exhausted _ _ _ _) hs fun s hs => loopEnds_pure hs _

theorem keepsReady_rangeLoop {pass : Run (W × History) Unit} (site : LoopSite)
    (loop : RangeLoop) (hp : PassEnds base ⟨.range, site.step, site.index⟩ around pass) :
    Keeps (Ready base around) Halt.OfRun (rangeLoop site loop pass) := by
  intro s hs
  refine inFrame_ready hs fun s hs => ?_
  refine loopEnds_bind steady_currentVars hs fun vars s hs => ?_
  refine loopEnds_bind (steady_check _ _) hs fun first s hs => ?_
  refine loopEnds_bind (steady_check _ _) hs fun last s hs => ?_
  refine loopEnds_setTotal _ hs fun s hs => loopEnds_bind (steady_emit _) hs fun _ s hs => ?_
  refine loopEnds_then (loopEnds_rangePasses hp loop first _ 0 s (by omega) hs) ?_
  exact fun iterations total s hs => loopEnds_pure hs _

theorem keepsReady_retryLoop {pass : Run (W × History) Unit} (site : LoopSite)
    (loop : RetryLoop) (hp : PassEnds base ⟨.retry, site.step, site.index⟩ around pass) :
    Keeps (Ready base around) Halt.OfRun (retryLoop site loop pass) := by
  intro s hs
  refine inFrame_ready hs fun s hs => ?_
  refine loopEnds_setTotal loop.maxAttempts hs fun s hs => ?_
  refine loopEnds_then (loopEnds_retryPasses hp site loop loop.maxAttempts 0 none s (by omega) hs)
    fun summary total s hs => ?_
  refine Ends.ite (fun _ => ?_) fun _ => ?_
  · exact loopEnds_bind (steady_emit _) hs fun _ s hs => loopEnds_pure hs _
  · exact loopEnds_ite (steady_exhausted _ _ _ _) hs fun s hs => loopEnds_pure hs _

end Runbook.Run
