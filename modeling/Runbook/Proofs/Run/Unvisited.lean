import Runbook.Proofs.Run.Bindings

/-!
# Until the turn of a step comes

What parts of a run do as long as the turn of no step comes.

* `RunState.turns` counts how often the turn of a step came, and `LeavesUntilTurn` says that a part
  leaves a view of the state alone unless the turn of a step comes;
* `countsTurns_act` says that the count only grows, and `ends_visitFrom_untilTurn` that a list of
  steps does nothing at all before the turn of a step comes, nor fails;
* `loopView` is what is seen of a state beside the frames and the variables of one loop, and
  `progress_loop` says that a loop is over without a trace if the turn of no step comes.
-/

namespace Runbook

/-- The turn of a step comes. -/
def Event.isTurn : Event → Bool
  | .turn _ (.ready _) => true
  | .turn _ _ | .note _ => false

/-- How often the turn of a step came. -/
def RunState.turns {W : Type} (s : RunState W) : Nat := s.events.countP Event.isTurn

namespace Run

open Portion

variable {W α β γ : Type} {v : RunState W → γ}

/-- A part that leaves a view of the state alone, unless the turn of a step comes. -/
def LeavesUntilTurn (v : RunState W → γ) (m : Run W α) : Prop :=
  ∀ s, Ends m s fun _ t => s.turns ≤ t.turns ∧ (t.turns = s.turns → v t = v s)

/-- A part that counts on. -/
abbrev CountsTurns (m : Run W α) : Prop := LeavesUntilTurn (fun _ => ()) m

theorem LeavesUntilTurn.bind {m : Run W α} {f : α → Run W β} (hm : LeavesUntilTurn v m)
    (hf : ∀ a, LeavesUntilTurn v (f a)) : LeavesUntilTurn v (m >>= f) := by
  intro s
  refine Ends.bind (hm s) ?_ fun _ _ h => h
  rintro a t ⟨hle, hview⟩
  refine (hf a t).mono ?_
  rintro r u ⟨hle', hview'⟩
  refine ⟨Nat.le_trans hle hle', fun heq => ?_⟩
  have hfirst : t.turns = s.turns := by omega
  have hsecond : u.turns = t.turns := by omega
  rw [hview' hsecond, hview hfirst]

theorem LeavesUntilTurn.ite {c : Prop} [Decidable c] {m n : Run W α} (hm : LeavesUntilTurn v m)
    (hn : LeavesUntilTurn v n) : LeavesUntilTurn v (if c then m else n) := by
  split
  · exact hm
  · exact hn

theorem LeavesUntilTurn.attempt {m : Run W α} (h : LeavesUntilTurn v m) :
    LeavesUntilTurn v (attempt m) := by
  intro s
  refine (ends_attempt (h s)).mono fun r t ht => ?_
  match r, ht with
  | .ok (.ok _), ht | .ok (.error _), ht | .error _, ht => exact ht

/-- A part that does nothing to the state. -/
theorem leavesUntilTurn_of_eq {m : Run W α} (h : ∀ s, (m s).2 = s) : LeavesUntilTurn v m := by
  intro s
  rw [Ends, h s]
  exact ⟨Nat.le_refl _, fun _ => rfl⟩

/-- A part that leaves the events alone, and the view. -/
theorem leavesUntilTurn_of_events {m : Run W α} (hevents : ∀ s, (m s).2.events = s.events)
    (hview : ∀ s, v (m s).2 = v s) : LeavesUntilTurn v m :=
  fun s => ⟨Nat.le_of_eq (congrArg (List.countP Event.isTurn) (hevents s).symm), fun _ => hview s⟩

theorem turns_emit (event : Event) (s : RunState W) :
    s.turns ≤ (emit event s).2.turns := by
  show s.turns ≤ (event :: s.events).countP Event.isTurn
  rw [List.countP_cons]
  exact Nat.le_add_right _ _

/-- Reporting is not the turn of a step. -/
theorem turns_reportAll (lines : List LogLine) (s : RunState W) :
    (reportAll lines s).2.turns = s.turns := by
  have hnotes : ((lines.map Event.note).reverse).countP Event.isTurn = 0 := by
    rw [List.countP_eq_zero]
    intro event hevent
    obtain ⟨line, -, rfl⟩ := List.mem_map.1 (List.mem_reverse.1 hevent)
    exact Bool.false_ne_true
  show ((lines.map Event.note).reverse ++ s.events).countP Event.isTurn = _
  rw [List.countP_append, hnotes, Nat.zero_add]
  rfl

/-- Small parts that bind no variables leave alone what overlooks the events. -/
theorem composesReads_untilTurn (hv : ∀ s events, v { s with events } = v s) :
    ComposesReads (.ofProperty fun α (m : Run W α) => LeavesUntilTurn v m) where
  pure _ := leavesUntilTurn_of_eq fun _ => rfl
  bind := LeavesUntilTurn.bind
  fail _ := leavesUntilTurn_of_eq fun _ => rfl
  currentVars := leavesUntilTurn_of_eq fun _ => rfl
  emit event := fun s => ⟨turns_emit event s, fun _ => hv s _⟩
  reportAll lines := fun s => ⟨Nat.le_of_eq (turns_reportAll lines s).symm, fun _ => hv s _⟩

/-! ## Counting -/

theorem congruent_countsTurns :
    Congruent (.ofProperty fun α (m : Run W α) => CountsTurns m) where
  toComposesReads := composesReads_untilTurn fun _ _ => rfl
  changeVars _ := leavesUntilTurn_of_events (fun _ => rfl) fun _ => rfl
  throw _ := leavesUntilTurn_of_eq fun _ => rfl
  progress := leavesUntilTurn_of_eq fun _ => rfl
  update _ := leavesUntilTurn_of_events (fun _ => rfl) fun _ => rfl
  record _ := leavesUntilTurn_of_events (fun _ => rfl) fun _ => rfl
  attempt := LeavesUntilTurn.attempt
  closing _ hm := hm

theorem countsTurns_reach (f : W → α × W) : CountsTurns (reach f) :=
  leavesUntilTurn_of_events (fun _ => rfl) fun _ => rfl

theorem countsTurns_attach (publish : Attachments → W → W) (template : String) :
    CountsTurns (attach publish template) := by
  intro s
  have hrest (attached : Attached) : CountsTurns
      (do
        reportAll attached.log
        return String.ofList (← ofExcept attached.outcome) : Run W String) := by
    refine (congruent_countsTurns.reportAll _).bind fun _ => LeavesUntilTurn.bind ?_ fun _ =>
      congruent_countsTurns.pure _
    cases attached.outcome with
    | ok cs => exact congruent_countsTurns.pure cs
    | error failure => exact congruent_countsTurns.throw _
  let attached := s.progress.vars.attach s.attachments template
  exact hrest attached { s with
    attachments := attached.store
    world := publish attached.store s.world }

theorem countsTurns_runSession (env : Setting W) (command cwd : String) :
    CountsTurns (runSession env command cwd) := by
  refine (countsTurns_reach _).bind fun r => ?_
  match r with
  | some (.ok outcome) => exact congruent_countsTurns.pure _
  | some (.error fault) => exact congruent_countsTurns.throw _
  | none => exact congruent_countsTurns.throw _

theorem composesTools_countsTurns (env : Setting W) :
    ComposesTools env env (.ofProperty fun α (m : Run W α) => CountsTurns m) :=
  { (congruent_countsTurns (W := W)).toComposes with
    config_eq := rfl
    defaults_eq := rfl
    sorter_eq := rfl
    shell := fun _ _ _ => countsTurns_reach _
    program := fun _ _ _ _ => countsTurns_reach _
    session := countsTurns_runSession env
    adapter := fun _ _ _ => countsTurns_reach _
    attach := countsTurns_attach _ }

/-- The turns that came are not taken back. -/
theorem countsTurns_act (env : Setting W) (step : Step Unit) (action : Action) (path : String)
    (index : Nat) : CountsTurns (act env step action path index) :=
  related_act congruent_countsTurns (composesTools_countsTurns env) rfl step action path index

/-! ## Lists of steps -/

theorem countsTurns_bindVar (name : String) (value : Value) :
    CountsTurns (bindVar name value : Run W Unit) :=
  congruent_countsTurns.toComposes.bindVar name value

theorem countsTurns_succeed (step : Step Unit) (path : String) (output : Value) :
    CountsTurns (succeed step path output : Run W Unit) := by
  refine (congruent_countsTurns.record _).bind fun _ => ?_
  cases step.outputVar with
  | none => exact congruent_countsTurns.pure ()
  | some var => exact countsTurns_bindVar _ _

theorem countsTurns_failAt (step : Step Unit) (path : String) (index : Nat) (failure : Failure) :
    CountsTurns (failAt step path index failure : Run W Unit) := by
  refine LeavesUntilTurn.ite ?_ ?_
  · exact (congruent_countsTurns.emit _).bind fun _ =>
      (congruent_countsTurns.record _).bind fun _ => countsTurns_bindVar _ _
  · exact (congruent_countsTurns.emit _).bind fun _ =>
      (congruent_countsTurns.record _).bind fun _ => congruent_countsTurns.throw _

/-- The turn of a step that is visited comes. -/
theorem turns_visit {step : Step Unit} {action : String → Nat → Run W Value}
    (h : ∀ path index, CountsTurns (action path index)) (scope : String) (index : Nat)
    (s : RunState W) : s.turns < (visit step action scope index s).2.turns := by
  obtain ⟨t, ht⟩ : ∃ t, t = { s with
    progress := { s.progress with stepIndex := index }
    events := .turn (stepPath scope step.name) (.ready index) :: s.events } := ⟨_, rfl⟩
  have hturn : t.turns = s.turns + 1 := by
    rw [ht]
    exact List.countP_cons_of_pos rfl
  -- what follows the turn counts on from there
  have hrest : Ends (visit step action scope index) s fun _ u => t.turns ≤ u.turns := by
    refine Ends.bind_ok rfl (Ends.bind_ok (show emit _ _ = (.ok (), t) by rw [ht]; rfl) ?_)
    refine Ends.mono ((congruent_countsTurns.skips step).bind (fun skipped => ?_) t)
      fun _ _ h => h.1
    refine LeavesUntilTurn.ite ?_ ?_
    · exact (congruent_countsTurns.emit _).bind fun _ =>
        (congruent_countsTurns.record _).bind fun _ => congruent_countsTurns.pure _
    · refine (congruent_countsTurns.emit _).bind fun _ => (h _ _).attempt.bind fun r => ?_
      match r with
      | .ok output =>
        exact (countsTurns_succeed _ _ output).bind fun _ => congruent_countsTurns.pure _
      | .error failure =>
        exact (countsTurns_failAt _ _ _ failure).bind fun _ => congruent_countsTurns.pure _
  exact Nat.lt_of_lt_of_le (by omega) hrest

theorem turns_stopsOf (env : Setting W) :
    ∀ steps : List (Step Action), ∀ stop ∈ stopsOf env steps, ∀ scope index (s : RunState W),
      s.turns < (stop.visit scope index s).2.turns
  | [], _, h, _, _, _ => absurd h List.not_mem_nil
  | ⟨_, _, _, _, _, _, _, action⟩ :: rest, stop, h, scope, index, s =>
    (List.mem_cons.1 h).elim
      (fun heq => heq ▸ turns_visit (countsTurns_act env _ action) scope index s)
      fun hrest => turns_stopsOf env rest stop hrest scope index s

section Lists

variable {stops : List (Stop W)}
  (h : ∀ stop ∈ stops, ∀ scope index (s : RunState W),
    s.turns < (stop.visit scope index s).2.turns)
include h

theorem relatedStops_countsTurns :
    RelatedStops (.ofProperty fun α (m : Run W α) => CountsTurns m) stops stops :=
  List.forall₂_same.2 fun stop hstop =>
    ⟨rfl, fun scope index s => ⟨Nat.le_of_lt (h stop hstop scope index s), fun _ => rfl⟩⟩

/-- Before the turn of a step comes, a list of steps does nothing, and does not fail. -/
theorem ends_visitFrom_untilTurn (scope : String) (fuel index : Nat) (s : RunState W) :
    Ends (visitFrom stops scope fuel index) s fun r t => s.turns ≤ t.turns ∧
      (t.turns = s.turns → t = s ∧ ∀ failure, r ≠ .error (.failed failure)) := by
  have hsteers := (congruent_countsTurns (W := W)).steers
  have hstops := relatedStops_countsTurns h
  unfold visitFrom
  cases hstop : stops[index]? with
  | none => exact ⟨Nat.le_refl _, fun _ => ⟨rfl, fun _ hr => by cases hr⟩⟩
  | some stop =>
    cases fuel with
    | zero => exact ⟨Nat.le_refl _, fun _ => ⟨rfl, fun _ hr => by cases hr⟩⟩
    | succ fuel =>
      have hvisit := h stop (List.mem_of_getElem? hstop) scope index s
      have hgrown : Ends (stop.visit scope index) s fun _ t => s.turns < t.turns := hvisit
      refine Ends.bind hgrown (fun ran t ht => ?_) fun halt t ht => ?_
      · refine (fun (hrest : CountsTurns _) => (hrest t).mono fun r u hu => ?_) ?_
        · have hle := hu.1
          exact ⟨by omega, fun heq => by omega⟩
        · refine LeavesUntilTurn.ite ?_ (hsteers.visitFrom hstops scope fuel _)
          refine LeavesUntilTurn.bind (hsteers.nextIndex hstops _ _ _) fun next => ?_
          cases next with
          | some j => exact hsteers.visitFrom hstops scope fuel j
          | none => exact hsteers.pure ()
      · exact ⟨by omega, fun heq => by omega⟩

end Lists

/-- So the steps of a list leave every view alone until then. -/
theorem leavesUntilTurn_visitFrom (v : RunState W → γ) (env : Setting W)
    (steps : List (Step Action)) (scope : String) (fuel index : Nat) :
    LeavesUntilTurn v (visitFrom (stopsOf env steps) scope fuel index) := by
  intro s
  refine (ends_visitFrom_untilTurn (turns_stopsOf env steps) scope fuel index s).mono ?_
  rintro r t ⟨hle, hsame⟩
  exact ⟨hle, fun heq => congrArg v (hsame heq).1⟩

/-! ## Loops -/

/-- What is seen of a state beside the frames and the variables of a loop that binds these names. -/
def loopView (names : List String) (s : RunState W) : Progress × (String → Option Value) :=
  ({ s.progress with loops := [], signal := .quiet, vars := .empty },
    fun name => if name ∈ names then none else s.progress.vars.find? name)

theorem loopView_onFrame (names : List String) (f : Frame → Frame) (s : RunState W) :
    loopView names { s with progress := s.progress.onFrame f } = loopView names s := by
  unfold loopView Progress.onFrame
  split <;> rfl

theorem loopView_bind {names : List String} {name : String} (h : name ∈ names) (value : Value)
    (s : RunState W) :
    loopView names { s with progress := s.progress.bind name value } = loopView names s := by
  refine Prod.ext rfl (funext fun other => ?_)
  by_cases hother : other ∈ names
  · simp only [loopView, if_pos hother]
  · have hne : other ≠ name := fun heq => hother (heq ▸ h)
    simp only [loopView, if_neg hother, Progress.bind, KeyMap.find?_insert_of_ne _ _ hne]

/-- Opening and closing a frame changes nothing of what is seen beside the loop. -/
theorem leavesUntilTurn_inFrame {names : List String} {m : Run W α} (hp : KeepsPinned m)
    (hm : LeavesUntilTurn (loopView names) m) (site : LoopSite) (kind : LoopKind) :
    LeavesUntilTurn (loopView names) (inFrame site kind names m) := by
  intro s
  obtain ⟨hle, hview⟩ := hm (entered site kind names s)
  rw [Ends, inFrame_apply, closing_apply, exitLoop_of_keepsPinned hp]
  refine ⟨hle, fun heq => ?_⟩
  rw [show loopView names s = loopView names (entered site kind names s) from rfl, ← hview heq]
  refine Prod.ext rfl (funext fun name => ?_)
  by_cases hname : name ∈ names
  · simp only [loopView, if_pos hname]
  · simp only [loopView, if_neg hname, Progress.find?_restore_of_notMem hname]

/-- All that a loop is built of leaves alone what is seen beside it. -/
theorem bindsLoops_untilTurn (names : List String) :
    BindsLoops (fun α (m m' : Run W α) =>
      PartRelation.ofProperty (fun _ m => KeepsPinned m) α m m' ∧
        PartRelation.ofProperty (fun _ m => LeavesUntilTurn (loopView names) m) α m m') names :=
  have hreads : ComposesReads
      (.ofProperty fun α (m : Run W α) => LeavesUntilTurn (loopView names) m) :=
    composesReads_untilTurn fun _ _ => rfl
  have hpinned := steers_pinned (W := W)
  { pure := fun a => ⟨hpinned.pure a, hreads.pure a⟩
    bind := fun hm hf => ⟨hpinned.bind hm.1 fun a => (hf a).1, hreads.bind hm.2 fun a => (hf a).2⟩
    fail := fun hf => ⟨hpinned.fail hf, hreads.fail hf⟩
    currentVars := ⟨hpinned.currentVars, hreads.currentVars⟩
    emit := fun event => ⟨hpinned.emit event, hreads.emit event⟩
    reportAll := fun lines => ⟨hpinned.reportAll lines, hreads.reportAll lines⟩
    bindVar := fun _ hname value => ⟨(steady_bindVar _ _).keepsPinned,
      leavesUntilTurn_of_events (fun _ => rfl) (loopView_bind hname value)⟩
    setCursor := fun _ => ⟨keepsPinned_setCursor _,
      leavesUntilTurn_of_events (fun _ => rfl) (loopView_onFrame names _)⟩
    setTotal := fun _ => ⟨keepsPinned_setTotal _,
      leavesUntilTurn_of_events (fun _ => rfl) (loopView_onFrame names _)⟩
    inFrame := fun site kind hm => ⟨(putsBack_inFrame hm.1 site kind names).keepsLoops.pinned,
      leavesUntilTurn_inFrame hm.1 hm.2 site kind⟩ }

/-- A loop whose frame is closed, and that left alone what is seen beside it, left no trace. -/
theorem progress_eq_of_putsBack {names : List String} {m : Run W α} (hback : PutsBack names m)
    (hview : LeavesUntilTurn (loopView names) m) {s : RunState W}
    (hquiet : s.progress.signal = .quiet) (hturns : (m s).2.turns = s.turns) :
    (m s).2.progress = s.progress := by
  obtain ⟨hloops, hsignal, hnames⟩ := hback s
  obtain ⟨hrest, houtside⟩ := Prod.mk.inj ((hview s).2 hturns)
  have hvars : (m s).2.progress.vars = s.progress.vars := by
    refine KeyMap.ext_find? fun name => ?_
    by_cases hname : name ∈ names
    · exact hnames name hname
    · have hseen := congrFun houtside name
      simpa only [if_neg hname] using hseen
  obtain ⟨-, hindex, -, -, hcompleted, herror, hjump⟩ := Progress.mk.inj hrest
  exact (Progress.mk.injEq ..).mpr
    ⟨hvars, hindex, hloops, hsignal.trans hquiet.symm, hcompleted, herror, hjump⟩

/-- Taking the signal of a pass changes nothing of what is seen beside a loop. -/
theorem leavesUntilTurn_signalled {part : Run W α} {names : List String} (hp : KeepsPinned part)
    (hm : LeavesUntilTurn (loopView names) part) :
    KeepsPinned (signalled part) ∧ LeavesUntilTurn (loopView names) (signalled part) := by
  have htake : LeavesUntilTurn (loopView names) (takeSignal : Run W Signal) :=
    leavesUntilTurn_of_events (fun _ => rfl) fun _ => rfl
  refine ⟨?_, ?_⟩
  · exact hp.bind fun _ => keepsLoops_takeSignal.pinned.bind fun _ => steady_pure _
  · exact hm.bind fun _ => htake.bind fun _ => leavesUntilTurn_of_eq fun _ => rfl

section Loops

variable {pass : Run W Unit} (hloops : KeepsLoops pass)
  (hpass : ∀ names, LeavesUntilTurn (loopView names) pass) (site : LoopSite)
include hloops hpass

theorem leavesUntilTurn_foreachLoop (sorter : Sorter) (loop : ForeachLoop) :
    LeavesUntilTurn (loopView [loop.itemVar, loop.indexVar]) (foreachLoop sorter site loop pass) :=
  (@BindsLoops.foreachLoop W W sorter _ pass pass loop (bindsLoops_untilTurn _)
    (fun _ => ⟨steady_throw trivial, leavesUntilTurn_of_eq fun _ => rfl⟩)
    (leavesUntilTurn_signalled hloops.pinned (hpass _)) site).2

theorem leavesUntilTurn_whileLoop (loop : WhileLoop) :
    LeavesUntilTurn (loopView [loop.counterVar]) (whileLoop site loop pass) :=
  (@BindsLoops.whileLoop W W _ pass pass loop (bindsLoops_untilTurn _)
    (leavesUntilTurn_signalled hloops.pinned (hpass _)) site).2

theorem leavesUntilTurn_rangeLoop (loop : RangeLoop) :
    LeavesUntilTurn (loopView [loop.var]) (rangeLoop site loop pass) :=
  (@BindsLoops.rangeLoop W W _ pass pass loop (bindsLoops_untilTurn _)
    (leavesUntilTurn_signalled hloops.pinned (hpass _)) site).2

omit hloops in
theorem leavesUntilTurn_tryPass (loop : RetryLoop) (names : List String) (number : Nat) :
    LeavesUntilTurn (loopView names) (tryPass site loop pass number) := by
  refine (hpass names).attempt.bind fun r => ?_
  match r with
  | .ok () => exact leavesUntilTurn_of_eq fun _ => rfl
  | .error failure =>
    have hreads := composesReads_untilTurn (W := W) (v := loopView names) fun _ _ => rfl
    refine LeavesUntilTurn.ite ?_ (leavesUntilTurn_of_eq fun _ => rfl)
    exact (hreads.emit _).bind fun _ => hreads.pure _

theorem leavesUntilTurn_retryLoop (loop : RetryLoop) :
    LeavesUntilTurn (loopView [loop.attemptVar]) (retryLoop site loop pass) :=
  (@BindsLoops.retryLoop W W _ pass pass site loop (bindsLoops_untilTurn _) fun number =>
    leavesUntilTurn_signalled (keepsLoops_tryPass hloops site loop number).pinned
      (leavesUntilTurn_tryPass hpass site loop _ number)).2

end Loops

end Run

end Runbook
