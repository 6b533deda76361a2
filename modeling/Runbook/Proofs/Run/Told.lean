import Runbook.Proofs.Run.Orderly
import Runbook.Proofs.Run.VisitTree

/-!
# What runs tell

The log and the history of a run are those of a list of visits, whatever the steps do.

* `Grows` says what a part of a run adds to the log and to what is told in the history;
* `Account` is a way to account for that by items, and `Tells` says that a part of a run is accounted
  for: by visits as `visitsOf` a list of steps, or by passes as `passesOf` an action;
* `tells_visit` makes a visit of a step of the passes through the steps inside it, and
  `tells_leaveFrom` puts visits in a row;
* `tells_watchedAct` is the induction over actions, and `Workflow.watch_visited` the result for whole
  runs.
-/

namespace Runbook

open Portion

/-- Whether something happens to a step, and not to a list of steps. -/
def Happening.ofStep : Happening → Bool
  | .turn _ | .dispatched _ | .ended _ _ => true
  | .left _ _ => false

/-- What happened to steps, in order. -/
def History.told (history : History) : List Happening :=
  (history.reverse.map (·.what)).filter Happening.ofStep

theorem History.told_append (later earlier : History) :
    History.told (later ++ earlier) = History.told earlier ++ History.told later := by
  unfold told
  rw [List.reverse_append, List.map_append, List.filter_append]

theorem History.mem_told {history : History} {m : Moment} (h : m ∈ history)
    (hof : m.what.ofStep = true) : m.what ∈ History.told history :=
  List.mem_filter.2 ⟨List.mem_map_of_mem (List.mem_reverse.2 h), hof⟩

theorem History.told_cons (m : Moment) (history : History) :
    History.told (m :: history) = History.told history ++ [m.what].filter Happening.ofStep :=
  History.told_append [m] history

namespace Run

variable {W α β γ : Type}

/-! ## Growth -/

/-- Between two states of a run these records are added and these things happen to steps, and the
run is over in both states or in neither. -/
structure Grows (s t : RunState (W × History)) (records : List StepRecord)
    (happenings : List Happening) : Prop where
  records_eq : t.records = records.reverse ++ s.records
  told_eq : History.told t.world.2 = History.told s.world.2 ++ happenings
  completed_eq : t.progress.completed = s.progress.completed
  error_eq : t.progress.error = s.progress.error

/-- What is told of a run, and whether it is over. -/
def still (s : RunState (W × History)) :
    List StepRecord × List Happening × Bool × Option String :=
  (s.records, History.told s.world.2, s.progress.completed, s.progress.error)

variable {s t u : RunState (W × History)} {records records' : List StepRecord}
  {happenings happenings' : List Happening}

theorem grows_of_still (h : still t = still s) : Grows s t [] [] := by
  simp only [still, Prod.mk.injEq] at h
  obtain ⟨hrecords, htold, hcompleted, herror⟩ := h
  exact ⟨hrecords, htold.trans (List.append_nil _).symm, hcompleted, herror⟩

theorem Grows.trans (h : Grows s t records happenings) (h' : Grows t u records' happenings') :
    Grows s u (records ++ records') (happenings ++ happenings') where
  records_eq := by rw [h'.records_eq, h.records_eq, List.reverse_append, List.append_assoc]
  told_eq := by rw [h'.told_eq, h.told_eq, List.append_assoc]
  completed_eq := h'.completed_eq.trans h.completed_eq
  error_eq := h'.error_eq.trans h.error_eq

theorem Grows.then_still (h : Grows s t records happenings) (hu : still u = still t) :
    Grows s u records happenings := by
  have hboth := h.trans (grows_of_still hu)
  rwa [List.append_nil, List.append_nil] at hboth

theorem grows_note (what : Happening) (hw : what.ofStep = true) (s : RunState (W × History)) :
    Grows s { s with world := (s.world.1, ⟨what, s.progress⟩ :: s.world.2) } [] [what] where
  records_eq := rfl
  told_eq := by rw [History.told_cons, List.filter_singleton, hw]; rfl
  completed_eq := rfl
  error_eq := rfl

theorem grows_record (r : StepRecord) (s : RunState (W × History)) :
    Grows s { s with records := r :: s.records } [r] [] where
  records_eq := rfl
  told_eq := (List.append_nil _).symm
  completed_eq := rfl
  error_eq := rfl

theorem overlooks_still :
    Overlooks Prod.snd (still : RunState (W × History) →
      List StepRecord × List Happening × Bool × Option String) where
  vars _ _ := rfl
  events _ _ := rfl
  world _ _ world h := by simp only [still, show world.2 = _ from h]

/-- A part that adds nothing to what is told, and fails only in ways that `P` allows. -/
abbrev Untold (P : Halt → Prop) (m : Run (W × History) α) : Prop := Steady still P m

theorem composes_untold :
    Composes (.ofProperty fun α (m : Run (W × History) α) => Untold (fun _ => True) m) :=
  overlooks_still.composes fun _ _ => trivial

theorem composesTools_untold (env : Setting W) :
    ComposesTools env.watched env.watched
      (.ofProperty fun α (m : Run (W × History) α) => Untold (fun _ => True) m) :=
  overlooks_still.composesTools (fun _ _ => trivial) (keeps_snd env) (.inl trivial)

theorem untold_update {P : Halt → Prop} {f : Progress → Progress}
    (h : ∀ p, (f p).completed = p.completed ∧ (f p).error = p.error) :
    Untold P (update f : Run (W × History) Unit) :=
  steady_modify fun s => by simp only [still, (h s.progress).1, (h s.progress).2]

theorem untold_emit {P : Halt → Prop} (event : Event) :
    Untold P (emit event : Run (W × History) Unit) :=
  steady_modify fun _ => rfl

/-! ## Accounts -/

/-- A way to account for what is told of a part of a run. -/
structure Account (β : Type) where
  /-- The records of an item. -/
  records : β → List StepRecord
  /-- What happens in an item. -/
  happenings : β → List Happening
  /-- What an item halts the part with, if it does. -/
  halt? : β → Option Halt
  /-- What an item is like. -/
  Item : β → Prop
  /-- What the part may halt with when the last item does not halt it. -/
  Stray : Halt → Prop

/-- What a part adds is accounted for by items: nothing comes after one that halts the part, and if
something else than a stray does, it is the last one. -/
def Accounted (A : Account β) (s : RunState (W × History)) (r : Except Halt α)
    (t : RunState (W × History)) : Prop :=
  ∃ items, Grows s t (items.flatMap A.records) (items.flatMap A.happenings) ∧
    (∀ x ∈ items, A.Item x) ∧ HaltsLast A.halt? r items ∧
      ∀ halt, r = .error halt → A.Stray halt ∨ items.getLast?.bind A.halt? = some halt

/-- A part of a run that is accounted for, wherever it begins. -/
def Tells (A : Account β) (m : Run (W × History) α) : Prop := ∀ s, Ends m s (Accounted A s)

variable {A : Account β}

theorem Accounted.then_still {r : Except Halt α} (h : Accounted A s r t)
    (hu : still u = still t) : Accounted A s r u := by
  obtain ⟨items, hgrows, hrest⟩ := h
  exact ⟨items, hgrows.then_still hu, hrest⟩

/-- What adds nothing is accounted for by no items. -/
theorem tells_of_untold {m : Run (W × History) α} {P : Halt → Prop} (h : Untold P m)
    (hP : ∀ halt, P halt → A.Stray halt) : Tells A m := by
  intro s
  refine Ends.mono (h s) fun r t ⟨hs, he⟩ => ⟨[], grows_of_still hs, ?_, trivial, ?_⟩
  · exact fun _ hx => absurd hx List.not_mem_nil
  · exact fun halt hr => .inl (hP halt (he halt hr))

theorem tells_pure (a : α) : Tells A (pure a : Run (W × History) α) :=
  tells_of_untold (steady_pure (P := fun _ => False) a) fun _ => False.elim

theorem Tells.bind {m : Run (W × History) α} {f : α → Run (W × History) γ} (hm : Tells A m)
    (hf : ∀ a, Tells A (f a)) : Tells A (m >>= f) := by
  intro s
  refine Ends.bind (hm s) ?_ ?_
  · rintro a t ⟨items, hgrows, hitems, hhalts, -⟩
    refine Ends.mono (hf a t) ?_
    rintro r u ⟨items', hgrows', hitems', hhalts', hlast'⟩
    -- none of the first items halts the part, as it went on
    refine ⟨items ++ items', ?_, ?_, hhalts.append hhalts', fun halt hr => ?_⟩
    · rw [List.flatMap_append, List.flatMap_append]
      exact hgrows.trans hgrows'
    · intro x hx
      exact (List.mem_append.1 hx).elim (hitems x) (hitems' x)
    · refine (hlast' halt hr).imp_right fun hlast => ?_
      obtain ⟨x, hx, hhalt⟩ := Option.bind_eq_some_iff.1 hlast
      rw [List.getLast?_append, hx]
      exact hhalt
  · rintro halt t ⟨items, hgrows, hitems, hhalts, hlast⟩
    exact ⟨items, hgrows, hitems, hhalts.error, fun halt' hr => by cases hr; exact hlast halt rfl⟩

theorem Tells.closing {m : Run (W × History) α} (h : Tells A m) {close : Progress → Progress}
    (hc : ∀ p, (close p).completed = p.completed ∧ (close p).error = p.error) :
    Tells A (closing m close) := by
  intro s
  rw [Ends, closing_apply]
  refine Accounted.then_still (h s) ?_
  simp only [still, (hc (m s).2.progress).1, (hc (m s).2.progress).2]

/-! ## Passes -/

/-- The visits of the steps of a list account for a part, but for jumps that lead nowhere. -/
def visitsOf (block : Block) (scope : String) : Account Visit where
  records := Visit.records
  happenings := Visit.happenings
  halt? := Visit.halt?
  Item := Visit.Of block scope
  Stray halt := ∀ failure, halt = .failed failure → failure.ofRun = false

/-- The passes through the steps inside an action account for a part, which may halt by itself. -/
def passesOf (action : Action) (path : String) : Account (List Visit) where
  records pass := pass.flatMap Visit.records
  happenings pass := pass.flatMap Visit.happenings
  halt? := Visit.passHalt? action
  Item := Visit.Pass action.steps path
  Stray _ := True

variable {action : Action} {path : String}

/-- What adds nothing may halt an action. -/
theorem tells_action {m : Run (W × History) α} (h : Untold (fun _ => True) m) :
    Tells (passesOf action path) m :=
  tells_of_untold h fun _ => id

theorem onFrame_over (f : Frame → Frame) (p : Progress) :
    (p.onFrame f).completed = p.completed ∧ (p.onFrame f).error = p.error := by
  unfold Progress.onFrame
  split <;> exact ⟨rfl, rfl⟩

theorem exitLoop_over (p : Progress) :
    p.exitLoop.completed = p.completed ∧ p.exitLoop.error = p.error := by
  unfold Progress.exitLoop
  split <;> exact ⟨rfl, rfl⟩

theorem restoreInputs_over (before : Option Value) (p : Progress) :
    (restoreInputs before p).completed = p.completed ∧ (restoreInputs before p).error = p.error := by
  unfold restoreInputs
  split <;> exact ⟨rfl, rfl⟩

/-- The small parts of actions add nothing, and frames only what is inside them. -/
theorem composesLoops_tells :
    ComposesLoops
      (.ofProperty fun α (m : Run (W × History) α) => Tells (passesOf action path) m) where
  pure := tells_pure
  bind := Tells.bind
  fail _ := tells_action (steady_throw trivial)
  currentVars := tells_action (composes_untold.currentVars)
  changeVars f := tells_action (composes_untold.changeVars f)
  emit event := tells_action (composes_untold.emit event)
  reportAll lines := tells_action (composes_untold.reportAll lines)
  setCursor _ := tells_action (untold_update fun p => onFrame_over _ p)
  setTotal _ := tells_action (untold_update fun p => onFrame_over _ p)
  inFrame site kind names h := by
    have henter : Untold (fun _ => True)
        (update (·.enterLoop kind site.step site.index names) : Run (W × History) Unit) :=
      untold_update fun _ => ⟨rfl, rfl⟩
    exact (tells_action henter).bind fun _ => h.closing exitLoop_over

/-- A list of steps is a pass of the action that they lie in, which halts the action with its own
halt if the action does not absorb it. -/
theorem Accounted.pass {end_ : Except Halt Unit} {r : Except Halt α}
    (h : Accounted (visitsOf action.steps path) s end_ t)
    (hr : ∀ halt, end_ = .error halt → action.absorbs halt = false → r = .error halt) :
    Accounted (passesOf action path) s r t := by
  obtain ⟨visits, hgrows, hof, hhalts, -⟩ := h
  refine ⟨[visits], ?_, ?_, ⟨fun halt hh => ⟨rfl, ?_⟩, trivial⟩, fun _ _ => .inl trivial⟩
  · rw [List.flatMap_singleton, List.flatMap_singleton]
    exact hgrows
  · intro pass hpass
    rw [List.mem_singleton.1 hpass]
    exact ⟨hof, end_, hhalts⟩
  · obtain ⟨hlast, ha⟩ := Option.filter_eq_some_iff.1 hh
    obtain ⟨v, hv, hhalt⟩ := Option.bind_eq_some_iff.1 hlast
    exact hr halt (hhalts.getLast?_eq (List.mem_of_getLast? hv) hhalt).2 (by simpa using ha)

theorem Tells.pass {body : Block} {m : Run (W × History) Unit} (h : Tells (visitsOf body path) m)
    (action : Action) (hb : action.steps = body) : Tells (passesOf action path) m := by
  subst hb
  exact fun s => Accounted.pass (h s) fun _ he _ => he

/-- An attempt is a pass, which does not halt its loop if a step failed. -/
theorem tells_tryPass {loop : RetryLoop} {body : Block} {m : Run (W × History) Unit}
    (h : Tells (visitsOf body path) m) (site : LoopSite) (number : Nat) :
    Tells (passesOf (.retry loop body) path) (tryPass site loop m number) := by
  intro s
  refine Ends.bind (ends_attempt (h s)) ?_ fun halt t ht => Accounted.pass ht fun _ he _ => ?_
  · intro r t ht
    match r, ht with
    | .ok (), ht => exact Accounted.pass ht fun _ he => by cases he
    | .error failure, ht =>
      refine Ends.ite (fun hstep => ?_) fun _ => ?_
      · refine Accounted.then_still (Accounted.pass ht fun halt he ha => ?_) rfl
        cases he
        rw [Action.absorbs, hstep] at ha
        cases ha
      · exact Accounted.pass ht fun halt he _ => by cases he; rfl
  · cases he
    rfl

theorem Tells.signalled {m : Run (W × History) α} (h : Tells (passesOf action path) m) :
    Tells (passesOf action path) (Run.signalled m) :=
  h.bind fun _ => (tells_action fun _ => ⟨rfl, fun _ _ => trivial⟩).bind fun _ =>
    tells_pure _

/-! ## Visits -/

/-- No failure halts an attempt. -/
theorem attempt_halts (m : Run (W × History) α) (s : RunState (W × History)) :
    Ends (attempt m) s (fun r _ => ∀ failure, r ≠ .error (.failed failure)) := by
  intro failure hr
  unfold attempt at hr
  split at hr <;> cases hr

/-- A condition is evaluated without fail. -/
theorem untold_skips (step : Step Unit) :
    Untold (fun _ => False) (skips step : Run (W × History) Bool) := by
  unfold skips
  split
  · have hvars : Untold (fun _ => False) (currentVars : Run (W × History) Variables) :=
      steady_get.bind fun _ => steady_pure _
    have hreport (lines) : Untold (fun _ => False) (reportAll lines : Run (W × History) Unit) :=
      steady_modify fun _ => rfl
    refine Steady.bind (hvars.bind fun vars => ?_) fun _ => steady_pure _
    exact (hreport _).bind fun _ => steady_pure _
  · exact steady_pure _

variable {step : Step Action} {block : Block} {scope : String} {place : Place}

theorem told_watchDispatch (step : Step Action) (place : Place) {m : Run (W × History) Value}
    (h : Tells (passesOf step.tool place.path) m) (s : RunState (W × History)) :
    Ends (watchDispatch place m) s (fun r t => ∃ passes,
      Grows s t (passes.flatMap fun pass => pass.flatMap Visit.records)
        (.dispatched place :: (passes.flatMap fun pass => pass.flatMap Visit.happenings) ++
          (Visit.dispatched step place passes r).ends) ∧
        (∀ pass ∈ passes, Visit.Pass step.tool.steps place.path pass) ∧
        HaltsLast (Visit.passHalt? step.tool) r passes) := by
  refine Ends.bind (P := fun r t => Grows s t [] [.dispatched place] ∧ r = .ok ())
    ⟨grows_note _ rfl s, rfl⟩ ?_ fun _ _ ht => by cases ht.2
  rintro - t ⟨ht, -⟩
  refine Ends.bind ((ends_attempt (h t)).and (attempt_halts m t)) ?_ ?_
  · rintro r u ⟨hu, -⟩
    match r, hu with
    | .ok output, hu =>
      obtain ⟨passes, hgrows, hpasses, hhalts, -⟩ := hu
      have hall := ht.trans (hgrows.trans (grows_note (.ended place (.ok output)) rfl u))
      rw [List.nil_append, List.append_nil] at hall
      exact ⟨passes, hall, hpasses, hhalts⟩
    | .error failure, hu =>
      obtain ⟨passes, hgrows, hpasses, hhalts, -⟩ := hu
      have hall := ht.trans
        (hgrows.trans (grows_note (.ended place (.error failure)) rfl u))
      rw [List.nil_append, List.append_nil] at hall
      exact ⟨passes, hall, hpasses, hhalts.error⟩
  · rintro halt u ⟨hu, hfailed⟩
    obtain ⟨passes, hgrows, hpasses, hhalts, -⟩ := hu
    have hall := ht.trans hgrows
    rw [List.nil_append] at hall
    refine ⟨passes, ?_, hpasses, hhalts⟩
    cases halt with
    | failed failure => exact absurd rfl (hfailed failure)
    | outOfFuel | panicked =>
      rw [Visit.ends, List.append_nil]
      exact hall

/-- What a part was halted with, if it was. -/
def haltOf : Except Halt α → Option Halt
  | .ok _ => none
  | .error halt => some halt

theorem told_succeed (does : Step Unit) (path : String) (output : Value)
    (s : RunState (W × History)) :
    Ends (succeed does path output) s (fun r t => Grows s t [.success path output] [] ∧
      r = .ok ()) := by
  unfold succeed
  cases does.outputVar with
  | none => exact ⟨grows_record _ s, rfl⟩
  | some var => exact ⟨(grows_record _ s).then_still rfl, rfl⟩

/-- A failure is recorded with its message if the run goes past it, and with its full wording if it
does not. -/
theorem told_failAt (does : Step Unit) (path : String) (index : Nat) (failure : Failure)
    (s : RunState (W × History)) :
    Ends (failAt does path index failure) s (fun r t =>
      Grows s t [.failure path
        (if does.goesPast (.failed failure) then failure.message else failure.text)] [] ∧
      haltOf r = if does.goesPast (.failed failure) then none else some (.failed failure)) := by
  refine Ends.ite (fun hpast => ?_) fun hpast => ?_
  · have hpast : does.goesPast (.failed failure) = true := hpast
    rw [hpast]
    exact ⟨(grows_record _ s).then_still rfl, rfl⟩
  · have hpast : does.goesPast (.failed failure) = false := Bool.eq_false_iff.2 hpast
    rw [hpast]
    exact ⟨(grows_record _ s).then_still rfl, rfl⟩

/-- A visit adds its turn, then what its dispatch does, then its own record. -/
theorem Grows.visit {passes : List (List Visit)} {result : Except Halt Value}
    {v : RunState (W × History)} (ht : Grows s t [] [.turn place])
    (hu : Grows t u (passes.flatMap fun pass => pass.flatMap Visit.records)
      (.dispatched place :: (passes.flatMap fun pass => pass.flatMap Visit.happenings) ++
        (Visit.dispatched step place passes result).ends))
    (hv : Grows u v (Visit.dispatched step place passes result).own?.toList []) :
    Grows s v (Visit.dispatched step place passes result).records
      (Visit.dispatched step place passes result).happenings := by
  rw [Visit.records_eq, Visit.happenings_eq]
  have hall := ht.trans (hu.trans hv)
  rw [List.append_nil] at hall
  exact hall

/-- A visit of a step of a list is one of the visits that account for the list. -/
theorem Accounted.visit {v : Visit} {r : Except Halt α} (h : Grows s t v.records v.happenings)
    (hof : v.Of block scope) (hr : haltOf r = v.halt?) : Accounted (visitsOf block scope) s r t := by
  refine ⟨[v], ?_, ?_, ⟨fun halt hh => ⟨rfl, ?_⟩, trivial⟩, fun halt he => .inr ?_⟩
  · rw [List.flatMap_singleton, List.flatMap_singleton]
    exact h
  · intro x hx
    rw [List.mem_singleton.1 hx]
    exact hof
  · have hh : v.halt? = some halt := hh
    rw [← hr] at hh
    cases r with
    | ok a => cases hh
    | error other => cases hh; rfl
  · rw [he] at hr
    exact hr.symm

/-- The visit of a step is one of the visits of its list. -/
theorem tells_visit {does : Step Unit} {act : String → Nat → Run (W × History) Value}
    (hname : does.name = step.name) (herror : does.onError = step.onError)
    (hact : ∀ path index, Tells (passesOf step.tool path) (act path index)) {index : Nat}
    (hstep : block[index]? = some step) (scope : String) (around : List LoopTag) :
    Tells (visitsOf block scope) (do
      note (.turn ⟨stepPath scope does.name, index, around⟩)
      visit does (fun path index => watchDispatch ⟨path, index, around⟩ (act path index))
        scope index) := by
  intro s
  let place : Place := ⟨stepPath scope does.name, index, around⟩
  have hpath : place.path = stepPath scope step.name := congrArg (stepPath scope) hname
  have hpast : does.goesPast = step.goesPast := by
    funext halt
    cases halt <;> simp only [Step.goesPast, herror]
  -- until the step is skipped or dispatched nothing is told but its turn
  let I : RunState (W × History) → Prop := fun t => Grows s t [] [.turn place]
  have keeps {β : Type} {P : Halt → Prop} {m : Run (W × History) β} (h : Untold P m) :
      Portion.Keeps I P m := h.keeps fun _ _ hv hI => hI.then_still hv
  refine Ends.bind (P := fun r t => I t ∧ r = .ok ()) ⟨grows_note _ rfl s, rfl⟩ ?_
    fun _ _ ht => by cases ht.2
  rintro - t ⟨ht, -⟩
  have hindex : Untold (fun _ => False)
      (update fun p => { p with stepIndex := index } : Run (W × History) Unit) :=
    untold_update fun _ => ⟨rfl, rfl⟩
  have hemit (event) : Untold (fun _ => False) (emit event : Run (W × History) Unit) :=
    untold_emit event
  refine (keeps hindex).bind_ends ht (fun _ t ht => ?_) fun _ _ _ he => he.elim
  refine (keeps (hemit _)).bind_ends ht (fun _ t ht => ?_) fun _ _ _ he => he.elim
  refine (keeps (untold_skips does)).bind_ends ht (fun skipped t ht => ?_) fun _ _ _ he => he.elim
  refine Ends.ite (fun _ => ?_) fun _ => ?_
  · refine (keeps (hemit _)).bind_ends ht (fun _ t ht => ?_) fun _ _ _ he => he.elim
    exact Accounted.visit (v := .skipped step place) (ht.trans (grows_record _ t))
      (.skipped hstep hpath) rfl
  · refine (keeps (hemit _)).bind_ends ht (fun _ t ht => ?_) fun _ _ _ he => he.elim
    refine Ends.bind ((ends_attempt (told_watchDispatch step place (hact place.path index) t)).and
      (attempt_halts _ t)) ?_ ?_
    · rintro r u ⟨hu, -⟩
      match r, hu with
      | .ok output, hu =>
        obtain ⟨passes, hgrows, hpasses, hhalts⟩ := hu
        refine Ends.bind (told_succeed does place.path output u) ?_ fun _ _ hv => by cases hv.2
        rintro - v ⟨hv, -⟩
        exact Accounted.visit (ht.visit hgrows hv)
          (Visit.of_dispatched hstep hpath hpasses hhalts) rfl
      | .error failure, hu =>
        obtain ⟨passes, hgrows, hpasses, hhalts⟩ := hu
        have hfail := told_failAt does place.path index failure u
        rw [hpast] at hfail
        refine Ends.bind hfail ?_ ?_
        · rintro _ v ⟨hv, hhalt⟩
          exact Accounted.visit (ht.visit hgrows hv)
            (Visit.of_dispatched hstep hpath hpasses hhalts) hhalt
        · rintro halt v ⟨hv, hhalt⟩
          exact Accounted.visit (ht.visit hgrows hv)
            (Visit.of_dispatched hstep hpath hpasses hhalts) hhalt
    · rintro halt u ⟨hu, hfailed⟩
      obtain ⟨passes, hgrows, hpasses, hhalts⟩ := hu
      cases halt with
      | failed failure => exact absurd rfl (hfailed failure)
      | outOfFuel | panicked =>
        exact Accounted.visit (ht.visit hgrows (grows_of_still rfl))
          (Visit.of_dispatched hstep hpath hpasses hhalts) rfl

/-! ## Lists of steps -/

/-- On the way from a visit to the next one nothing fails but a jump that leads nowhere. -/
theorem untold_nextIndex (stops : List (Stop (W × History))) (scope name : String) (index : Nat) :
    Untold (fun halt => ∀ failure, halt = .failed failure → failure.ofRun = false)
      (nextIndex stops scope name index) := by
  refine (steady_get.bind fun _ => steady_pure _).bind fun p => Steady.ite (steady_pure _) ?_
  split
  · exact steady_pure _
  · refine Steady.bind (untold_update fun _ => ⟨rfl, rfl⟩) fun _ => ?_
    split
    · exact steady_throw fun _ hf => by cases hf; rfl
    · exact (untold_emit _).bind fun _ => steady_pure _

theorem tells_leaveFrom {stops : List (Stop (W × History))}
    (h : ∀ (index : Nat) (stop : Stop (W × History)), stops[index]? = some stop →
      Tells (visitsOf block scope) (stop.visit scope index)) (fuel : Nat) :
    ∀ index, Tells (visitsOf block scope) (leaveFrom stops scope fuel index) := by
  induction fuel with
  | zero =>
    intro index
    unfold leaveFrom
    split
    · exact tells_pure _
    · exact tells_of_untold (steady_throw (P := (· = .outOfFuel)) rfl)
        fun _ hfuel _ hf => by rw [hfuel] at hf; cases hf
  | succ fuel ih =>
    intro index
    unfold leaveFrom
    split
    · exact tells_pure _
    · next stop hstop =>
      refine (h index stop hstop).bind fun ran => ?_
      cases ran with
      | false => exact ih (index + 1)
      | true =>
        refine (tells_of_untold (untold_nextIndex _ _ _ _) fun _ => id).bind fun next => ?_
        cases next with
        | some j => exact ih j
        | none => exact tells_pure _

/-- That a list of steps is left is not told. -/
theorem tells_watchList {stops : List (Stop (W × History))}
    (h : ∀ (index : Nat) (stop : Stop (W × History)), stops[index]? = some stop →
      Tells (visitsOf block scope) (stop.visit scope index)) (inLoop : Bool)
    (around : List LoopTag) (fuel : Nat) :
    Tells (visitsOf block scope) (watchList inLoop around stops scope fuel) := by
  refine (tells_leaveFrom h fuel 0).bind fun index => ?_
  refine tells_of_untold (P := fun _ => False) (steady_modify fun s => ?_) fun _ => False.elim
  simp only [still, History.told_cons]
  rw [show [_].filter Happening.ofStep = [] from rfl, List.append_nil]

theorem watchedStops_eq_map (env : Setting W) (around : List LoopTag) (steps : Block) :
    watchedStops env around steps = steps.map (watchedStop env around) := by
  induction steps with
  | nil => rfl
  | cons step rest ih => rw [watchedStops, ih, List.map_cons]

/-- The steps of a list, each of which is accounted for wherever it stands. -/
theorem tells_steps (env : Setting W) {around : List LoopTag} {block : Block}
    (h : ∀ step ∈ block, ∀ (scope : String) (index : Nat), block[index]? = some step →
      Tells (visitsOf block scope) ((watchedStop env around step).visit scope index))
    (inLoop : Bool) (scope : String) :
    Tells (visitsOf block scope)
      (watchList inLoop around (watchedStops env around block) scope env.fuel) := by
  refine tells_watchList (fun index stop hstop => ?_) _ _ _
  rw [watchedStops_eq_map, List.getElem?_map, Option.map_eq_some_iff] at hstop
  obtain ⟨step, hstep, rfl⟩ := hstop
  exact h step (List.mem_of_getElem? hstep) scope index hstep

mutual

/-- Whatever a step does is accounted for by the passes through the steps inside it. -/
theorem tells_watchedAct (env : Setting W) (around : List LoopTag) (step : Step Unit) :
    ∀ (action : Action) (path : String) (index : Nat),
      Tells (passesOf action path) (watchedAct env around step action path index)
  | .bash _ _, _, _ => tells_action ((composesTools_untold env).runBash _ _ _)
  | .agent _, _, _ => tells_action ((composesTools_untold env).runAgent _ _)
  | .prompt _, _, _ => tells_action ((composesTools_untold env).runPrompt _ _)
  | .adapter _ _, _, _ => tells_action ((composesTools_untold env).runAdapter _ _ _ _)
  | .set _ _ _, _, _ => tells_action (composes_untold.runSet _ _ _ _)
  | .log _ _, _, _ => tells_action (composes_untold.runLog _ _ _)
  | .goto _, _, _ | .leave, _, _ | .next, _, _ =>
    tells_action ((untold_update fun _ => ⟨rfl, rfl⟩).bind fun _ => steady_pure _)
  | .foreach loop body, path, _ =>
    composesLoops_tells.foreachLoop_self (fun _ => tells_action (steady_throw trivial))
      ((tells_steps env (tells_watchedStops env _ body body) true path).pass (.foreach loop body)
        rfl).signalled _ loop
  | .whilst loop body, path, _ =>
    composesLoops_tells.whileLoop_self
      ((tells_steps env (tells_watchedStops env _ body body) true path).pass (.whilst loop body)
        rfl).signalled _ loop
  | .range loop body, path, _ =>
    composesLoops_tells.rangeLoop_self
      ((tells_steps env (tells_watchedStops env _ body body) true path).pass (.range loop body)
        rfl).signalled _ loop
  | .retry _ body, path, _ =>
    composesLoops_tells.retryLoop_self fun number =>
      (tells_tryPass (tells_steps env (tells_watchedStops env _ body body) true path)
        _ number).signalled
  | .shared ⟨key, signature, body, height⟩ inputs outputs, path, _ =>
    composesLoops_tells.runShared_self (fun _ =>
      ((tells_steps env (tells_watchedStops env around body body) false path).pass
        (.shared ⟨key, signature, body, height⟩ inputs outputs) rfl).closing
          (restoreInputs_over _)) _ _ _ _ _

theorem tells_watchedStop (env : Setting W) (around : List LoopTag) :
    ∀ (step : Step Action) {block : Block} {scope : String} {index : Nat},
      block[index]? = some step →
        Tells (visitsOf block scope) ((watchedStop env around step).visit scope index)
  | ⟨_, _, _, _, _, _, _, action⟩, _, _, _, hstep =>
    tells_visit rfl rfl (fun path index => tells_watchedAct env around _ action path index) hstep _ _

theorem tells_watchedStops (env : Setting W) (around : List LoopTag) (block : Block) :
    ∀ (steps : List (Step Action)), ∀ step ∈ steps, ∀ (scope : String) (index : Nat),
      block[index]? = some step →
        Tells (visitsOf block scope) ((watchedStop env around step).visit scope index)
  | [], _, h, _, _, _ => absurd h List.not_mem_nil
  | step :: rest, _, h, _, _, hstep =>
    (List.mem_cons.1 h).elim (fun heq => heq ▸ tells_watchedStop env around step (heq ▸ hstep))
      fun hrest => tells_watchedStops env around block rest _ hrest _ _ hstep

end

end Run

/-- The visits that a run of a workflow makes. -/
structure Workflow.Visited {W : Type} (w : Workflow) (env : Setting W)
    (overrides : List (String × Value)) (directory : String) (world : W) (visits : List Visit) :
    Prop where
  /-- The history is one of this run. -/
  watched : Run.block { env with defaults := w.defaults } w.body ""
      (w.start env.config overrides directory world) =
    ((w.watch env overrides directory world).1, (w.watch env overrides directory world).2.forget)
  /-- What it tells is what happens in the visits. -/
  told : History.told (w.history env overrides directory world) = visits.flatMap Visit.happenings
  /-- They are visits of the steps of the workflow. -/
  of : ∀ v ∈ visits, v.Of w.body ""

/-- **Every run is a list of visits**, each with those inside it: these are what its history tells
and what its log records, and one that halts is the last. -/
theorem Workflow.watch_visited {W : Type} (w : Workflow) (env : Setting W)
    (overrides : List (String × Value)) (directory : String) (world : W) :
    ∃ visits, w.Visited env overrides directory world visits ∧
      Run.Grows ((w.start env.config overrides directory world).beside [])
        (w.watch env overrides directory world).2 (visits.flatMap Visit.records)
        (visits.flatMap Visit.happenings) ∧
      HaltsLast Visit.halt? (w.watch env overrides directory world).1 visits ∧
      ∀ halt, (w.watch env overrides directory world).1 = .error halt →
        (∀ failure, halt = .failed failure → failure.ofRun = false) ∨
          visits.getLast?.bind Visit.halt? = some halt := by
  obtain ⟨visits, hgrows, hof, hhalts, hlast⟩ := Run.tells_steps
    { env with defaults := w.defaults } (Run.tells_watchedStops _ [] w.body w.body) false ""
    ((w.start env.config overrides directory world).beside [])
  exact ⟨visits, ⟨w.forget_watch env overrides directory world, hgrows.told_eq, hof⟩, hgrows, hhalts,
    hlast⟩

end Runbook
