import Runbook.Proofs.Run.Followed
import Runbook.Proofs.Run.Log

/-!
# No failure goes unnoticed

What becomes of the failure of a step: the run is halted with it, or a variable has its message
before anything else happens, or an attempt is reported to have failed with it.

* `Noticed` says so of a failure and the moments after it;
* `Run.Waiting` is the state between two visits of a list, and `Run.Raised` the one in which a list
  has failed;
* `Run.ends_tryPass` says what an attempt that failed awaits, and `Run.leaveFrom_waiting` goes from
  visit to visit;
* `Run.ends_watchedAct` is the induction over actions, and `Definition.noticesFailures` the result.
-/

namespace Runbook

open Portion

namespace Run

variable {W α β : Type}

/-! ## Lists of steps -/

/-- Whatever happens next inside these loops, with the variables as they are, may be noted. -/
abbrev Waiting (around : List LoopTag) (s : RunState (W × History)) : Prop :=
  Awaits (fun next => next.what.around = around ∧ next.progress.vars = s.progress.vars) s

/-- A list of steps has failed: the last moment is this failure of one of its steps, unless sound
steps do not fail in this way. -/
structure Raised (scope : String) (around : List LoopTag) (failure : Failure)
    (s : RunState (W × History)) : Prop where
  traced : Traced s
  last : failure.ofRun = true → ∃ place progress earlier name,
    s.world.2 = ⟨.ended place (.error failure), progress⟩ :: earlier ∧
      place.path = stepPath scope name ∧ place.around = around

/-- What holds when a list of steps has ended. -/
abbrev ListEnds (scope : String) (around : List LoopTag) (I : α → RunState (W × History) → Prop) :
    Except Halt α → RunState (W × History) → Prop :=
  Closes I (Raised scope around)

variable {s t : RunState (W × History)} {Q : Moment → Prop} {scope : String}
  {around : List LoopTag} {outer : Place} {failure : Failure}

theorem Awaits.waiting (h : Settled s) : Waiting around s := h.mono fun _ _ => trivial

theorem Awaits.waiting_later (h : Waiting around s) (hl : Later s t)
    (hv : t.progress.vars = s.progress.vars) : Waiting around t :=
  (Awaits.later h hl).mono fun _ hnext => hv ▸ hnext

/-- The step around a list that has failed may fail with its failure. -/
theorem Raised.fails (h : Raised outer.path around failure s) : Fails outer failure s := by
  by_cases hof : failure.ofRun = true
  · obtain ⟨place, progress, earlier, name, heq, hpath, -⟩ := h.last hof
    exact h.traced.awaits heq fun next hnext => .passedOn outer ⟨name, hpath⟩ hnext
  · refine ⟨h.traced, fun m hm place failure' hwhat next hnext => ?_⟩
    exact .astray outer failure hnext (Bool.eq_false_iff.2 hof)

/-- A list that is left in a settled state, unless it fails. -/
def ListHeard (scope : String) (around : List LoopTag) (m : Run (W × History) Unit) : Prop :=
  ∀ s, Waiting around s → Ends m s (ListEnds scope around fun _ => Settled)

variable {m : Run (W × History) Unit}

/-- A list of steps is a part of the step around it. -/
theorem ListHeard.heard (h : ListHeard outer.path around m) : Heard outer m :=
  fun s hs => Ends.mono (h s hs.waiting) fun _ _ ht => Closes.imp ht (fun _ => id)
    fun _ => Raised.fails

/-! ## Attempts -/

/-- The place of a loop step with these loops around it. -/
abbrev LoopSite.place (site : LoopSite) (around : List LoopTag) : Place :=
  ⟨site.path, site.index, around⟩

/-- The loops around the steps of a loop of attempts. -/
abbrev LoopSite.inside (site : LoopSite) (around : List LoopTag) : List LoopTag :=
  ⟨.retry, site.step, site.index⟩ :: around

/-- What may come next between two attempts, given why the last one that failed did so. -/
abbrev LoopSite.goesOn (site : LoopSite) (around : List LoopTag) (lastError : Option String) :
    Moment → Prop :=
  TriesOn (site.place around) (site.inside around) lastError

variable {site : LoopSite}

/-- An attempt that fails is reported, which makes up for its failure. -/
theorem ends_tryPass (loop : RetryLoop) (h : ListHeard site.path (site.inside around) m)
    (number : Nat) (lastError : Option String) (hs : Awaits (site.goesOn around lastError) s) :
    Ends (tryPass site loop m number) s
      (PartEnds (site.place around) fun error => site.goesOn around (error.or lastError)) := by
  have hpass := h s (hs.mono fun _ hnext => .inl hnext.1)
  refine Closes.bind (Closes.attempt hpass) fun r t ht => ?_
  match r, ht with
  | .ok (), ht => exact ht.mono fun _ _ => trivial
  | .error failure, ht =>
    have hraised : Raised site.path (site.inside around) failure t := ht
    refine Ends.ite (fun hstep => ?_) fun _ => hraised.fails
    obtain ⟨place, progress, earlier, name, heq, hpath, haround⟩ :=
      hraised.last (Failure.ofRun_of_isStepFailure hstep)
    let warning := attemptWarning site.path number loop.maxAttempts failure
    have hlater : Later t { t with events := warning :: t.events } :=
      ⟨rfl, List.subset_cons_self _ _⟩
    refine (hraised.traced.later hlater).awaits heq fun next hnext => ?_
    refine .tried hstep ⟨site.place around, name, site.step, number, loop.maxAttempts, hpath,
      haround, List.mem_cons_self, ?_⟩
    rw [haround]
    exact hnext

theorem passive_succeeded (loop : RetryLoop) (passed : Bool) :
    Passive (fun _ => False) (succeeded loop passed : Run (W × History) Bool) := by
  unfold succeeded
  cases loop.stopWhen with
  | none => exact passive_pure passed
  | some condition => exact passive_holds condition

/-- When the attempts are over, the last failure is the one that the summary tells. -/
theorem ends_retryPasses (loop : RetryLoop) (h : ListHeard site.path (site.inside around) m)
    (left : Nat) : ∀ (done : Nat) (lastError : Option String) (s : RunState (W × History)),
      Awaits (site.goesOn around lastError) s →
      Ends (retryPasses site loop m left done lastError) s
        (PartEnds (site.place around) fun summary => site.goesOn around summary.lastError) := by
  induction left with
  | zero =>
    intro done lastError s hs
    exact hs
  | succ left ih =>
    intro done lastError s hs
    refine Closes.bind ((passive_update _).keeps hs) fun _ t ht => ?_
    refine Closes.bind ((passive_update _).keeps ht) fun _ t ht => ?_
    refine Closes.bind (ends_tryPass loop h _ lastError ht) fun error t ht => ?_
    refine Closes.bind (passive_takeSignal.keeps ht) fun signal t ht => ?_
    refine Closes.bind ((passive_succeeded _ _).keeps ht) fun success t ht => ?_
    exact Ends.ite (fun _ => ht) fun _ => ih _ _ t ht

/-- A loop of attempts tells in its end why the last attempt that failed did so. -/
theorem ends_retryLoop (loop : RetryLoop) (h : ListHeard site.path (site.inside around) m)
    (hs : Settled s) :
    Ends (retryLoop site loop m) s (PartEnds (site.place around) fun output next =>
      next.what = .ended (site.place around) (.ok output)) := by
  refine ends_inFrame hs fun t ht => ?_
  refine Closes.bind ((passive_update _).keeps ht) fun _ t ht => ?_
  refine Closes.bind (ends_retryPasses loop h _ _ _ t (ht.mono fun _ _ => trivial))
    fun summary t ht => ?_
  have hvalue {u : RunState (W × History)} (hl : Later t u) :
      Awaits (fun next => next.what = .ended (site.place around) (.ok summary.toValue)) u :=
    (Awaits.later ht hl).mono fun _ hnext => .inr ⟨_, hnext, summary, rfl, .inl rfl⟩
  refine Ends.ite (fun _ => hvalue ⟨rfl, List.subset_cons_self _ _⟩) fun _ => Ends.ite (fun _ => ?_)
    fun _ => hvalue (later_of_eq rfl rfl)
  unfold exhausted
  cases loop.onExhausted with
  | fail => exact ht.mono fun _ hnext => .inr ⟨_, hnext, summary, rfl, .inr ⟨site.step, rfl⟩⟩
  | goOn => exact hvalue ⟨rfl, List.subset_cons_self _ _⟩

/-! ## Visits -/

/-- A dispatched step is noted with its failure, if it fails. -/
theorem ends_watchDispatch {place : Place} {action : Run (W × History) Value}
    (h : ∀ s, Settled s →
      Ends action s (PartEnds place fun output next => next.what = .ended place (.ok output)))
    (hs : Settled s) :
    Ends (watchDispatch place action) s (Closes (fun _ => Settled) fun failure t =>
      Traced t ∧ ∃ progress earlier,
        t.world.2 = ⟨.ended place (.error failure), progress⟩ :: earlier) := by
  have hdispatched : Settled (noted (.dispatched place) s) :=
    hs.settled_noted trivial fun _ _ h => by cases h
  refine ends_note (Closes.bind (Closes.attempt (h _ hdispatched)) fun r t ht => ?_)
  match r, ht with
  | .ok output, ht =>
    exact ends_note (Awaits.settled_noted ht rfl fun _ _ h => by cases h)
  | .error failure, ht =>
    have hfails : Fails place failure t := ht
    exact ends_note ⟨hfails.traced_noted rfl, _, _, rfl⟩

/-- What a failure that the run goes past awaits is anything at all, as long as its variable is as
it is. -/
theorem ends_failAt (does : Step Unit) (place : Place) (failure : Failure)
    (hpath : place.path = stepPath scope does.name) (ht : Traced s)
    (hlast : ∃ progress earlier,
      s.world.2 = ⟨.ended place (.error failure), progress⟩ :: earlier) (index : Nat) :
    Ends (failAt does place.path index failure) s
      (ListEnds scope place.around fun _ => Waiting place.around) := by
  obtain ⟨progress, earlier, heq⟩ := hlast
  unfold failAt
  refine Ends.ite (fun hpast => ?_) fun _ => ?_
  · obtain ⟨hstep, -⟩ := Bool.and_eq_true_iff.1 hpast
    have hbound {t : RunState (W × History)} (hl : Later s t)
        (hv : t.progress.vars.find? lastErrorVar = some (.string failure.message)) :
        Waiting place.around t :=
      (ht.later hl).awaits (hl.history.trans heq) fun _ hnext => .noted hstep (hnext.2 ▸ hv)
    exact hbound ⟨rfl, List.subset_cons_self _ _⟩ (KeyMap.find?_insert_self _ _ _)
  · exact ⟨ht.later ⟨rfl, List.subset_cons_self _ _⟩, fun _ =>
      ⟨place, progress, earlier, does.name, heq, hpath, rfl⟩⟩

theorem passive_skips (does : Step Unit) :
    Passive (fun _ => False) (skips does : Run (W × History) Bool) := by
  unfold skips
  cases does.condition with
  | none => exact passive_pure false
  | some condition => exact (passive_holds condition).bind fun _ => passive_pure _

theorem passive_succeed (does : Step Unit) (path : String) (output : Value) :
    Passive (fun _ => False) (succeed does path output : Run (W × History) Unit) := by
  unfold succeed
  refine (passive_record _).bind fun _ => ?_
  cases does.outputVar with
  | none => exact passive_pure _
  | some var => exact passive_update _

/-- After a visit a list goes on, unless the step failed. -/
theorem ends_visit (does : Step Unit) {act : String → Nat → Run (W × History) Value}
    (h : ∀ path index s, Settled s → Ends (act path index) s
      (PartEnds ⟨path, index, around⟩ fun output next =>
        next.what = .ended ⟨path, index, around⟩ (.ok output)))
    (scope : String) (index : Nat) (hs : Waiting around s) :
    Ends (do
      note (.turn ⟨stepPath scope does.name, index, around⟩)
      visit does (fun path index => watchDispatch ⟨path, index, around⟩ (act path index))
        scope index) s (ListEnds scope around fun _ => Waiting around) := by
  let place : Place := ⟨stepPath scope does.name, index, around⟩
  have hturn : Settled (noted (.turn place) s) :=
    Awaits.settled_noted hs ⟨rfl, rfl⟩ fun _ _ h => by cases h
  refine ends_note (Closes.bind ((passive_update _).keeps hturn) fun _ t ht => ?_)
  refine Closes.bind ((passive_emit _).keeps ht) fun _ t ht => ?_
  refine Closes.bind ((passive_skips does).keeps ht) fun skipped t ht => Ends.ite (fun _ => ?_)
    fun _ => ?_
  · have hskip : Passive (fun _ => False) (do
        emit (.turn place.path (.skipped index))
        record (.skip place.path)
        return false : Run (W × History) Bool) :=
      (passive_emit _).bind fun _ => (passive_record _).bind fun _ => passive_pure _
    exact Ends.mono (hskip.keeps ht) fun _ _ ht => Closes.imp ht (fun _ => Awaits.waiting)
      fun _ => id
  · refine Closes.bind ((passive_emit _).keeps ht) fun _ t ht => ?_
    have hdispatch := ends_watchDispatch (h place.path index) ht
    refine Closes.bind (Closes.attempt hdispatch) fun r t ht => ?_
    match r, ht with
    | .ok output, ht =>
      refine Closes.bind ((passive_succeed does place.path output).keeps ht) fun _ t ht => ?_
      exact Awaits.waiting ht
    | .error failure, ⟨htraced, hlast⟩ =>
      exact Closes.bind (ends_failAt does place failure rfl htraced hlast index) fun _ t ht => ht

/-- On the way to the next visit nothing is noted, and nothing is bound. -/
theorem ends_nextIndex (stops : List (Stop (W × History))) (scope name : String) (index : Nat)
    (hs : Waiting around s) :
    Ends (nextIndex stops scope name index) s (ListEnds scope around fun _ => Waiting around) := by
  refine Closes.bind (I := fun p t => s = t ∧ p = s.progress) ⟨rfl, rfl⟩ ?_
  rintro _ _ ⟨rfl, rfl⟩
  refine Ends.ite (fun _ => hs) fun _ => ?_
  cases s.progress.jump with
  | none => exact hs
  | some target =>
    let cleared : RunState (W × History) := { s with progress := { s.progress with jump := none } }
    have hcleared : Waiting around cleared := hs.waiting_later (later_of_eq rfl rfl) rfl
    refine Closes.bind (I := fun _ u => u = cleared) rfl ?_
    rintro _ _ rfl
    cases stops.findIdx? (·.name == target) with
    | none => exact ⟨hcleared.traced, fun hof => by cases hof⟩
    | some j => exact hcleared.waiting_later ⟨rfl, List.subset_cons_self _ _⟩ rfl

/-- Steps after whose visits their list goes on, unless one of them fails. -/
abbrev GoOn (scope : String) (around : List LoopTag) (stops : List (Stop (W × History))) : Prop :=
  ∀ stop ∈ stops, ∀ (index : Nat) (s : RunState (W × History)), Waiting around s →
    Ends (stop.visit scope index) s (ListEnds scope around fun _ => Waiting around)

/-- From visit to visit the last failure is followed, until the list is left or a step fails. -/
theorem leaveFrom_waiting {stops : List (Stop (W × History))} (h : GoOn scope around stops)
    (fuel : Nat) : ∀ (index : Nat) (s : RunState (W × History)), Waiting around s →
      Ends (leaveFrom stops scope fuel index) s
        (ListEnds scope around fun _ => Waiting around) := by
  induction fuel with
  | zero =>
    intro index s hs
    unfold leaveFrom
    split
    · exact hs
    · exact hs.traced
  | succ fuel ih =>
    intro index s hs
    unfold leaveFrom
    split
    · exact hs
    · next stop hstop =>
      refine Closes.bind (h stop (List.mem_of_getElem? hstop) index s hs) fun ran t ht => ?_
      refine Ends.ite (fun _ => ?_) fun _ => ih _ t ht
      refine Closes.bind (ends_nextIndex stops scope stop.name index ht) fun next t ht => ?_
      cases next with
      | some j => exact ih j t ht
      | none => exact ht

/-- A list has been left, and all failures are followed. -/
structure Left (s : RunState (W × History)) : Prop where
  traced : Traced s
  last : ∃ list index progress earlier, s.world.2 = ⟨.left list index, progress⟩ :: earlier

theorem Left.settled (h : Left s) : Settled s where
  traced := h.traced
  next m hm place failure hwhat := by
    obtain ⟨list, index, progress, earlier, heq⟩ := h.last
    rw [heq] at hm
    cases hm
    cases hwhat

theorem ends_watchList {stops : List (Stop (W × History))} (h : GoOn scope around stops)
    (inLoop : Bool) (fuel : Nat) (hs : Waiting around s) :
    Ends (watchList inLoop around stops scope fuel) s (ListEnds scope around fun _ => Left) := by
  refine Closes.bind (leaveFrom_waiting h fuel 0 s hs) fun index t ht => ?_
  exact ⟨Awaits.traced_noted ht ⟨rfl, rfl⟩, _, _, _, _, rfl⟩

theorem listHeard_watchList {stops : List (Stop (W × History))} (h : GoOn scope around stops)
    (inLoop : Bool) (fuel : Nat) :
    ListHeard scope around (watchList inLoop around stops scope fuel) :=
  fun _ hs => Ends.mono (ends_watchList h inLoop fuel hs) fun _ _ ht =>
    Closes.imp ht (fun _ => Left.settled) fun _ => id

/-! ## Actions -/

mutual

/-- A step that is dispatched in a settled state awaits nothing but its own end. -/
theorem ends_watchedAct (env : Setting W) (around : List LoopTag) (step : Step Unit) :
    ∀ (action : Action) (path : String) (index : Nat) (s : RunState (W × History)), Settled s →
      Ends (watchedAct env around step action path index) s
        (PartEnds ⟨path, index, around⟩ fun output next =>
          next.what = .ended ⟨path, index, around⟩ (.ok output))
  | .bash _ _, _, _, _, hs => ((composesTools_passive env).runBash _ _ _).heard.acts hs
  | .agent _, _, _, _, hs => ((composesTools_passive env).runAgent _ _).heard.acts hs
  | .prompt _, _, _, _, hs => ((composesTools_passive env).runPrompt _ _).heard.acts hs
  | .adapter _ _, _, _, _, hs => ((composesTools_passive env).runAdapter _ _ _ _).heard.acts hs
  | .set _ _ _, _, _, _, hs => (composes_passive.runSet _ _ _ _).heard.acts hs
  | .log _ _, _, _, _, hs => (composes_passive.runLog _ _ _).heard.acts hs
  | .goto _, _, _, _, hs | .leave, _, _, _, hs | .next, _, _, _, hs =>
    ((passive_update (P := fun _ => True) _).bind fun _ => passive_pure _).heard.acts hs
  | .foreach loop body, path, _, _, hs =>
    (composesLoops_heard.foreachLoop_self
      (fun _ => Passive.heard (P := fun _ => True) (passive_throw trivial))
      (listHeard_watchList (goOn_watchedStops env _ body path) true env.fuel).heard.signalled _
      loop).acts hs
  | .whilst loop body, path, _, _, hs =>
    (composesLoops_heard.whileLoop_self (listHeard_watchList
      (goOn_watchedStops env _ body path) true env.fuel).heard.signalled _ loop).acts hs
  | .range loop body, path, _, _, hs =>
    (composesLoops_heard.rangeLoop_self (listHeard_watchList
      (goOn_watchedStops env _ body path) true env.fuel).heard.signalled _ loop).acts hs
  | .retry loop body, path, _, _, hs =>
    ends_retryLoop loop (listHeard_watchList (goOn_watchedStops env _ body path) true env.fuel) hs
  | .shared ⟨_, _, body, _⟩ _ _, path, _, _, hs =>
    (composesLoops_heard.runShared_self (fun _ => (listHeard_watchList
      (goOn_watchedStops env around body path) false env.fuel).heard.closing) _ _ _ _ _).acts hs

theorem goOn_watchedStops (env : Setting W) (around : List LoopTag) :
    ∀ (steps : List (Step Action)) (scope : String),
      GoOn scope around (watchedStops env around steps)
  | [], _, _, h, _, _, _ => absurd h List.not_mem_nil
  | ⟨name, condition, onError, outputVar, visible, cwd, model, action⟩ :: rest, scope, stop, h,
      index, s, hs =>
    (List.mem_cons.1 h).elim
      (fun heq => heq ▸ ends_visit ⟨name, condition, onError, outputVar, visible, cwd, model, ()⟩
        (fun path index => ends_watchedAct env around _ action path index) scope index hs)
      fun hrest => goOn_watchedStops env around rest scope stop hrest index s hs

end

end Run

/-! ## Results -/

/-- What becomes of a failure in the moments after it; `Over` is what holds if it is the failure
with which the run is over. -/
def Noticed (events : List Event) (Over : Failure → Prop) (place : Place) (failure : Failure) :
    List Moment → Prop
  | [] => Over failure
  | next :: rest =>
    (failure.isStepFailure = true ∧
      (next.progress.vars.find? Run.lastErrorVar = some (.string failure.message) ∨
        Tried events place failure next)) ∨
      ∃ outer, (∃ name, place.path = Run.stepPath outer.path name) ∧
        next.what = .ended outer (.error failure) ∧ Noticed events Over outer failure rest

/-- A failure that is not that of a step can only be the one with which the run is over. -/
theorem Noticed.over {events : List Event} {Over : Failure → Prop} {failure : Failure}
    (hf : failure.isStepFailure = false) {later : List Moment} :
    ∀ {place : Place}, Noticed events Over place failure later → Over failure := by
  induction later with
  | nil => exact fun h => h
  | cons next rest ih =>
    rintro place (⟨hstep, -⟩ | ⟨outer, -, -, hrest⟩)
    · rw [hf] at hstep
      cases hstep
    · exact ih hrest

section Results

variable {W : Type}

/-- Failures that are followed and come up while steps run are noticed. -/
theorem Run.Traced.noticed {s : RunState (W × History)} (h : Traced s) {Over : Failure → Prop}
    (hof : ∀ m ∈ s.world.2, ∀ place failure, m.what = .ended place (.error failure) →
      failure.ofRun = true)
    (hlast : ∀ m ∈ s.world.2.head?, ∀ place failure, m.what = .ended place (.error failure) →
      Over failure) (later : List Moment) :
    ∀ (place : Place) (failure : Failure) (progress : Progress) (earlier : History),
      s.world.2 = later.reverse ++ ⟨.ended place (.error failure), progress⟩ :: earlier →
      Noticed s.events Over place failure later := by
  induction later with
  | nil =>
    intro place failure progress earlier heq
    exact hlast ⟨.ended place (.error failure), progress⟩ (by rw [heq]; rfl) place failure rfl
  | cons next rest ih =>
    intro place failure progress earlier heq
    rw [List.reverse_cons, List.append_assoc, List.singleton_append] at heq
    have hnext : next ∈ s.world.2 := by
      rw [heq]
      exact List.mem_append_right _ List.mem_cons_self
    unfold Traced at h
    rw [heq] at h
    have hfollowed := (List.isChain_cons_cons.1 h.right_of_append).1 place failure rfl
    cases hfollowed with
    | noted step var => exact .inl ⟨step, .inl var⟩
    | tried step attempt => exact .inl ⟨step, .inr attempt⟩
    | passedOn outer inside what =>
      obtain ⟨_, later⟩ := next
      cases what
      exact .inr ⟨outer, inside, rfl, ih outer failure later _ heq⟩
    | astray outer other what stray =>
      rw [hof next hnext outer other what] at stray
      cases stray

/-- A run that comes to an end is halted with this failure, and says so. -/
def Workflow.HaltsWith (w : Workflow) (env : Setting W) (overrides : List (String × Value))
    (directory : String) (world : W) (failure : Failure) : Prop :=
  ∀ report world', w.run env overrides directory world = (some report, world') →
    report.failure = some failure ∧ report.progress.error = some failure.text

/-- No failure of a run goes unnoticed. -/
structure Workflow.NoticesFailures (w : Workflow) (env : Setting W)
    (overrides : List (String × Value)) (directory : String) (world : W) : Prop where
  /-- The history is one of this run. -/
  watched : Run.block { env with defaults := w.defaults } w.body ""
      (w.start env.config overrides directory world) =
    ((w.watch env overrides directory world).1, (w.watch env overrides directory world).2.forget)
  /-- Whenever a step that was dispatched has ended with a failure, the steps around it fail with it
  until the run is halted, or at the next moment a variable has its message, or an attempt is
  reported to have failed with it. -/
  noticed : ∀ later earlier place failure progress,
    w.history env overrides directory world =
      later ++ ⟨.ended place (.error failure), progress⟩ :: earlier →
    Noticed (w.watch env overrides directory world).2.events
      (w.HaltsWith env overrides directory world) place failure later.reverse
  /-- A loop that ran out of passes halts the run, as do all failures but those of steps. -/
  fatal : ∀ m ∈ w.history env overrides directory world, ∀ place failure,
    m.what = .ended place (.error failure) → failure.isStepFailure = false →
      w.HaltsWith env overrides directory world failure

variable {d : Definition} {source : Option String} {c : Compiler} {s t : CompileState}
  {w : Workflow}

/-- The failure at the end of the history of a run is the one with which it is halted. -/
theorem Workflow.haltsWith_of_last {w : Workflow} (h : Block.Sound false w.body) {env : Setting W}
    {overrides : List (String × Value)} {directory : String} {world : W}
    (hends : Run.ListEnds "" [] (fun _ => Run.Left) (w.watch env overrides directory world).1
      (w.watch env overrides directory world).2) :
    ∀ m ∈ (w.history env overrides directory world).head?, ∀ place failure,
      m.what = .ended place (.error failure) →
        w.HaltsWith env overrides directory world failure := by
  intro m hm place failure hwhat report world' hr
  have hm : (w.watch env overrides directory world).2.world.2.head? = some m := hm
  rcases Workflow.run_eq_some hr with ⟨hok, -⟩ | ⟨other, hfailed, rfl⟩
  · rw [hok] at hends
    obtain ⟨_, _, _, _, heq⟩ := Run.Left.last hends
    rw [heq] at hm
    cases hm
    cases hwhat
  · rw [hfailed] at hends
    obtain ⟨_, _, _, _, heq, -, -⟩ :=
      Run.Raised.last hends (Workflow.run_failure h hr rfl)
    rw [heq] at hm
    cases hm
    cases hwhat
    exact ⟨rfl, rfl⟩

/-- **No failure goes unnoticed**, whatever was compiled before and whatever the tools do: it halts
the run, or is bound to a variable, or is reported as that of an attempt. -/
theorem Definition.noticesFailures (hs : s.Reached) (h : d.compile source c s = (.ok w, t))
    (env : Setting W) (overrides : List (String × Value)) (directory : String) (world : W) :
    w.NoticesFailures env overrides directory world := by
  have hsound := Definition.compile_sound hs h
  have hstart : Run.Settled ((w.start env.config overrides directory world).beside []) :=
    ⟨.nil, fun _ hm => by cases hm⟩
  have hends : Run.ListEnds "" [] (fun _ => Run.Left) (w.watch env overrides directory world).1
      (w.watch env overrides directory world).2 :=
    Run.ends_watchList (Run.goOn_watchedStops { env with defaults := w.defaults } [] w.body "")
      false env.fuel hstart.waiting
  have htraced : Run.Traced (w.watch env overrides directory world).2 :=
    Run.Closes.traced hends (fun _ => Run.Left.traced) fun _ => Run.Raised.traced
  have hnoticed : ∀ later earlier place failure progress,
      w.history env overrides directory world =
        later ++ ⟨.ended place (.error failure), progress⟩ :: earlier →
      Noticed (w.watch env overrides directory world).2.events
        (w.HaltsWith env overrides directory world) place failure later.reverse := by
    intro later earlier place failure progress heq
    refine htraced.noticed ?_ (Workflow.haltsWith_of_last hsound hends) later.reverse place failure
      progress earlier (by rw [List.reverse_reverse]; exact heq)
    rintro ⟨what, progress⟩ hm place failure rfl
    exact (Workflow.history_orderly hsound env overrides directory world _ hm).2
  refine ⟨w.forget_watch env overrides directory world, hnoticed, ?_⟩
  rintro ⟨what, progress⟩ hm place failure rfl hf
  obtain ⟨later, earlier, heq⟩ := List.append_of_mem hm
  exact (hnoticed later earlier place failure progress heq).over hf

end Results

/-- A loop over something that is not a list, in an attempt that is given up. -/
def givingUp : Definition where
  name := "giving up"
  description := none
  version := "1"
  vars := .empty
  defaults := {}
  steps :=
    [Builtin.plainStep "once" (.retry ⟨1, 0, none, "attempt", .goOn⟩
      [Builtin.plainStep "each"
        (.foreach ⟨.bool true, "item", "index", none, none, .ascending, none⟩ [])])]

theorem givingUp_happens : ∃ w t later earlier place step message progress,
    givingUp.compile none bareCompiler .empty = (.ok w, t) ∧
      w.history (bareSetting 100) [] "" () =
        later ++ ⟨.ended place (.error (.stepFailed step message)), progress⟩ :: earlier ∧
      place.path = "once/each" ∧ later.length = 2 :=
  ⟨_, _, [_, _], _, _, _, _, _, rfl, rfl, rfl, rfl⟩

theorem Definition.noticesFailures_givingUp :
    ∃ w t later earlier place step message progress,
      givingUp.compile none bareCompiler .empty = (.ok w, t) ∧
        w.history (bareSetting 100) [] "" () =
          later ++ ⟨.ended place (.error (.stepFailed step message)), progress⟩ :: earlier ∧
        Noticed (w.watch (bareSetting 100) [] "" ()).2.events
          (w.HaltsWith (bareSetting 100) [] "" ()) place (.stepFailed step message)
          later.reverse := by
  obtain ⟨w, t, later, earlier, place, step, message, progress, h, hhistory, -, -⟩ :=
    givingUp_happens
  have hnotices := Definition.noticesFailures (.empty []) h (bareSetting 100) [] "" ()
  exact ⟨w, t, later, earlier, place, step, message, progress, h, hhistory,
    hnotices.noticed later earlier place _ progress hhistory⟩

/-- The failure of an attempt is not bound to the variable, though it does not halt the run. -/
theorem givingUp_unbound : ∃ w t report world' later earlier place failure progress,
    givingUp.compile none bareCompiler .empty = (.ok w, t) ∧
      w.run (bareSetting 100) [] "" () = (some report, world') ∧
      w.history (bareSetting 100) [] "" () =
        later ++ ⟨.ended place (.error failure), progress⟩ :: earlier ∧
      report.failure = none ∧ report.progress.error = none ∧
      report.progress.vars.find? Run.lastErrorVar = none ∧
      (later.all fun m => (m.progress.vars.find? Run.lastErrorVar).isNone) = true :=
  ⟨_, _, _, _, [_, _], _, _, _, _, rfl, rfl, rfl, rfl, rfl, rfl, rfl⟩

end Runbook
