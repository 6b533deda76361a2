import Mathlib.Data.List.Forall2
import Runbook.Run.Machine

/-!
# What runs are built of

Tools, loops and calls are built of a few small parts.  What is true of these, and is passed on when
one part follows another, is true of whatever is built of them.  It is said of two runs at once, so
that it can also be a way in which the parts of one are like those of the other.

* `Failure.ofRun` are the failures that come up while steps run;
* `ComposesReads` is what a relation has to satisfy to be passed on from the small parts that bind
  no variables, and `Composes` to be passed on from all small parts;
* `ReadsTools` and `ComposesTools` ask for the tools too, and pass the relation on to steps without
  steps inside;
* `BindsLoops` asks for the frames and the variables of one loop, `ComposesLoops` for those of all,
  and both pass the relation on from the passes of a loop;
* `Steers` asks for what steers a run from visit to visit, and passes it on from the visits of a
  list to the list;
* `Congruent` asks for all that runs are built of, and passes it on from actions to visits.
-/

namespace Runbook

/-- Whether a failure comes up while steps run: a step or a loop fails, or what steps start does. -/
def Failure.ofRun : Failure → Bool
  | .stepFailed _ _ | .loopExhausted _ _ | .portExhausted _ _ | .spawn _ | .session _
  | .io _ => true
  | .parse _ | .workflowNotFound _ | .duplicateStep _ _ | .unknownJumpTarget _ _
  | .signalOutsideLoop _ _ | .invalidStep _ _ | .unknownAdapter _ _ | .sharedNotFound _
  | .missingInput _ _ | .schemaMismatch _ _ _ | .circularReference _ | .depthExceeded _ _ => false

namespace Run

variable {W V α β : Type}

/-- A relation between the parts of two runs. -/
abbrev PartRelation (W V : Type) := (α : Type) → Run W α → Run V α → Prop

/-- A relation between the small parts that bind no variables and do not touch what a run goes by,
passed on when one part follows another. -/
structure ComposesReads (R : PartRelation W V) : Prop where
  pure : ∀ {α : Type} (a : α), R α (pure a) (pure a)
  bind : ∀ {α β : Type} {m : Run W α} {m' : Run V α} {f : α → Run W β} {f' : α → Run V β},
    R α m m' → (∀ a, R β (f a) (f' a)) → R β (m >>= f) (m' >>= f')
  fail : ∀ {α : Type} {failure : Failure}, failure.ofRun = true → R α (fail failure) (fail failure)
  currentVars : R Variables currentVars currentVars
  emit : ∀ event, R Unit (emit event) (emit event)
  reportAll : ∀ lines, R Unit (reportAll lines) (reportAll lines)

/-- A relation that is there between changes of variables, too. -/
structure Composes (R : PartRelation W V) : Prop extends ComposesReads R where
  changeVars : ∀ f : Variables → Variables, R Unit (update fun p => { p with vars := f p.vars })
    (update fun p => { p with vars := f p.vars })

/-- A relation that is there between the tools of two settings, but for their adapters. -/
structure ReadsTools (env : Setting W) (env' : Setting V) (R : PartRelation W V) : Prop
    extends ComposesReads R where
  config_eq : env'.config = env.config
  defaults_eq : env'.defaults = env.defaults
  sorter_eq : env'.sorter = env.sorter
  shell : ∀ command cwd limit, R (Except String Command.Outcome)
    (reach (env.tools.shell command cwd limit)) (reach (env'.tools.shell command cwd limit))
  program : ∀ name args cwd limit, R (Except String Command.Outcome)
    (reach (env.tools.program name args cwd limit)) (reach (env'.tools.program name args cwd limit))
  session : ∀ command cwd,
    R Session.Outcome (runSession env command cwd) (runSession env' command cwd)
  attach : ∀ template, R String (attach env.tools.publish template)
    (attach env'.tools.publish template)

/-- A relation that is there between all tools of two settings, too. -/
structure ComposesTools (env : Setting W) (env' : Setting V) (R : PartRelation W V) : Prop
    extends Composes R, ReadsTools env env' R where
  adapter : ∀ name call vars, R AdapterReply
    (reach (env.tools.adapter name call vars)) (reach (env'.tools.adapter name call vars))

/-- A relation that is passed on through the frames of loops with variables of these names. -/
structure BindsLoops (R : PartRelation W V) (names : List String) : Prop
    extends ComposesReads R where
  bindVar : ∀ name ∈ names, ∀ value, R Unit (bindVar name value) (bindVar name value)
  setCursor : ∀ cursor, R Unit (update (·.setCursor cursor)) (update (·.setCursor cursor))
  setTotal : ∀ total, R Unit (update (·.setTotal total)) (update (·.setTotal total))
  inFrame : ∀ {α : Type} {m : Run W α} {m' : Run V α} (site : LoopSite) (kind : LoopKind),
    R α m m' → R α (inFrame site kind names m) (inFrame site kind names m')

/-- A relation that is passed on through the frames of all loops, too. -/
structure ComposesLoops (R : PartRelation W V) : Prop extends Composes R where
  setCursor : ∀ cursor, R Unit (update (·.setCursor cursor)) (update (·.setCursor cursor))
  setTotal : ∀ total, R Unit (update (·.setTotal total)) (update (·.setTotal total))
  inFrame : ∀ {α : Type} {m : Run W α} {m' : Run V α} (site : LoopSite) (kind : LoopKind)
    (names : List String), R α m m' → R α (inFrame site kind names m) (inFrame site kind names m')

/-- A relation that is passed on by what steers a run from visit to visit: failures, failures as
results, and changes of anything but variables and loops. -/
structure Steers (R : PartRelation W V) : Prop extends ComposesReads R where
  throw : ∀ {α : Type} (halt : Halt), R α (throw halt) (throw halt)
  progress : R Progress progress progress
  steer : ∀ f : Progress → Progress, (∀ p, (f p).vars = p.vars) → (∀ p, (f p).loops = p.loops) →
    R Unit (update f) (update f)
  attempt : ∀ {α : Type} {m : Run W α} {m' : Run V α}, R α m m' →
    R (Except Failure α) (attempt m) (attempt m')

/-- A relation that is passed on by all that runs are built of. -/
structure Congruent (R : PartRelation W V) : Prop extends Composes R where
  throw : ∀ {α : Type} (halt : Halt), R α (throw halt) (throw halt)
  progress : R Progress progress progress
  update : ∀ f : Progress → Progress, R Unit (update f) (update f)
  record : ∀ r, R Unit (record r) (record r)
  attempt : ∀ {α : Type} {m : Run W α} {m' : Run V α}, R α m m' →
    R (Except Failure α) (attempt m) (attempt m')
  closing : ∀ {α : Type} {m : Run W α} {m' : Run V α} (close : Progress → Progress), R α m m' →
    R α (closing m close) (closing m' close)

/-- A relation that is there when sorting panics, if it may. -/
abbrev PanicsWith (sorter : Sorter) (R : PartRelation W V) : Prop :=
  sorter.Panics → R (List Value) (throw .panicked) (throw .panicked)

variable {sorter : Sorter} {R : PartRelation W V}

theorem relation_ite {c : Prop} [Decidable c] {m n : Run W α} {m' n' : Run V α} (hm : R α m m')
    (hn : R α n n') : R α (if c then m else n) (if c then m' else n') := by
  split
  · exact hm
  · exact hn

/-! ## Small parts -/

theorem Composes.bindVar (h : Composes R) (name : String) (value : Value) :
    R Unit (Run.bindVar name value) (Run.bindVar name value) :=
  h.changeVars (·.insert name value)

namespace ComposesReads

theorem holds (h : ComposesReads R) (condition : String) :
    R Bool (Run.holds condition) (Run.holds condition) :=
  h.bind h.currentVars fun _ => h.bind (h.reportAll _) fun _ => h.pure _

theorem holdsIf (h : ComposesReads R) (condition : Option String) :
    R Bool (Run.holdsIf condition) (Run.holdsIf condition) := by
  cases condition with
  | none => exact h.pure false
  | some condition => exact h.holds condition

theorem check (h : ComposesReads R) (site : LoopSite) (r : Except String α) :
    R α (site.check r) (site.check r) := by
  cases r with
  | ok a => exact h.pure a
  | error message => exact h.fail rfl

theorem skips (h : ComposesReads R) (step : Step Unit) :
    R Bool (Run.skips step) (Run.skips step) := by
  unfold Run.skips
  cases step.condition with
  | none => exact h.pure false
  | some condition => exact h.bind (h.holds condition) fun _ => h.pure _

theorem commandOutput (h : ComposesReads R) (step : Step Unit) (limit : Nat)
    (r : Except String Command.Outcome) :
    R Value (Run.commandOutput step limit r) (Run.commandOutput step limit r) := by
  cases r with
  | error detail => exact h.fail rfl
  | ok outcome => exact relation_ite (h.pure _) (h.fail rfl)

theorem runSet (h : ComposesReads R) (step : Step Unit) (var : String) (value : Value)
    (parseJson : Bool) (hb : ∀ v, R Unit (bindVar var v) (bindVar var v)) :
    R Value (Run.runSet step var value parseJson) (Run.runSet step var value parseJson) := by
  refine h.bind h.currentVars fun vars => ?_
  cases valueToSet vars var value parseJson with
  | ok v => exact h.bind (hb v) fun _ => h.pure v
  | error message => exact h.fail rfl

theorem runLog (h : ComposesReads R) (path template : String) (level : LogLevel) :
    R Value (Run.runLog path template level) (Run.runLog path template level) :=
  h.bind h.currentVars fun _ => h.bind (h.emit _) fun _ => h.pure _

/-! ## Items and ends of loops -/

section Items

variable {loop : ForeachLoop} (h : ComposesReads R)
  (hb : ∀ name ∈ [loop.itemVar, loop.indexVar], ∀ value,
    R Unit (bindVar name value) (bindVar name value))
include h hb

theorem bindItem (item : Value) (index : Nat) :
    R Unit (Run.bindItem loop item index) (Run.bindItem loop item index) :=
  h.bind (hb _ List.mem_cons_self _) fun _ =>
    hb _ (List.mem_cons_of_mem _ List.mem_cons_self) _

theorem filterItems (condition : String) (items : List Value) :
    ∀ index, R (List Value) (Run.filterItems loop condition index items)
      (Run.filterItems loop condition index items) := by
  induction items with
  | nil => intro index; exact h.pure _
  | cons item rest ih =>
    intro index
    exact h.bind (h.bindItem hb _ _) fun _ => h.bind (h.holds _) fun kept =>
      h.bind (ih _) fun more => h.pure _

theorem itemsOf (hpanic : PanicsWith sorter R) (site : LoopSite) :
    R (List Value) (Run.itemsOf sorter site loop) (Run.itemsOf sorter site loop) := by
  have hsorted : ∀ kept, R (List Value)
      (orSorted (Loop.sortItems sorter loop.sortBy loop.sortOrder kept))
      (orSorted (Loop.sortItems sorter loop.sortBy loop.sortOrder kept)) := by
    intro kept
    cases hsort : Loop.sortItems sorter loop.sortBy loop.sortOrder kept with
    | none => exact hpanic (Loop.panics_of_sortItems hsort)
    | some items => exact h.pure items
  refine h.bind h.currentVars fun vars => h.bind (h.check _ _) fun items => ?_
  dsimp only
  cases loop.filter with
  | none => exact h.bind (h.pure items) hsorted
  | some condition => exact h.bind (h.filterItems hb _ _ _) hsorted

end Items

theorem succeeded (h : ComposesReads R) (loop : RetryLoop) (passed : Bool) :
    R Bool (Run.succeeded loop passed) (Run.succeeded loop passed) := by
  unfold Run.succeeded
  cases loop.stopWhen with
  | none => exact h.pure passed
  | some condition => exact h.holds condition

theorem exhausted (h : ComposesReads R) (site : LoopSite) (policy : OnExhausted)
    (kind detail : String) :
    R Unit (Run.exhausted site policy kind detail) (Run.exhausted site policy kind detail) := by
  cases policy with
  | fail => exact h.fail rfl
  | goOn => exact h.emit _

end ComposesReads

/-! ## Steps that bind variables -/

theorem Composes.runSet (h : Composes R) (step : Step Unit) (var : String) (value : Value)
    (parseJson : Bool) :
    R Value (Run.runSet step var value parseJson) (Run.runSet step var value parseJson) :=
  h.toComposesReads.runSet step var value parseJson fun _ => h.bindVar _ _

theorem Composes.bindItem (h : Composes R) (loop : ForeachLoop) (item : Value) (index : Nat) :
    R Unit (Run.bindItem loop item index) (Run.bindItem loop item index) :=
  h.toComposesReads.bindItem (fun _ _ _ => h.bindVar _ _) item index

theorem Composes.itemsOf (h : Composes R) (hpanic : PanicsWith sorter R) (site : LoopSite)
    (loop : ForeachLoop) :
    R (List Value) (Run.itemsOf sorter site loop) (Run.itemsOf sorter site loop) :=
  h.toComposesReads.itemsOf (fun _ _ _ => h.bindVar _ _) hpanic site

/-- A call passes on what its steps satisfy when the inputs of the caller are put back. -/
theorem Composes.runShared (h : Composes R) {body : Run W Unit} {body' : Run V Unit}
    (hb : ∀ before, R Unit (closing body (restoreInputs before))
      (closing body' (restoreInputs before)))
    (step : Step Unit) (path : String) (sig : Signature) (inputs : KeyMap Value)
    (outputs : KeyMap String) :
    R Value (Run.runShared step path sig inputs outputs body)
      (Run.runShared step path sig inputs outputs body') := by
  refine h.bind h.currentVars fun vars => ?_
  cases sig.bindInputs inputs vars with
  | error failure => exact h.fail rfl
  | ok bound =>
    refine h.bind (h.reportAll _) fun _ => h.bind (h.emit _) fun _ =>
      h.bind (h.bindVar _ _) fun _ => h.bind (hb _) fun _ => h.bind h.currentVars fun vars => ?_
    exact h.bind (h.changeVars (·.insertAll _)) fun _ => h.pure _

/-! ## Tools -/

namespace ReadsTools

variable {env : Setting W} {env' : Setting V}

theorem workingDir_eq (h : ReadsTools env env' R) : workingDir env' = workingDir env := by
  unfold workingDir
  rw [h.config_eq]

theorem modelOf_eq (h : ReadsTools env env' R) : modelOf env' = modelOf env := by
  unfold modelOf
  rw [h.defaults_eq]

theorem runBash (h : ReadsTools env env' R) (step : Step Unit) (template : String)
    (timeout : Option Nat) :
    R Value (Run.runBash env step template timeout) (Run.runBash env' step template timeout) := by
  unfold Run.runBash
  rw [h.workingDir_eq, h.config_eq, h.defaults_eq]
  refine h.bind h.currentVars fun vars => relation_ite ?_ ?_
  · exact h.bind (h.session _ _) fun _ => h.pure _
  · exact h.bind (h.shell _ _ _) fun r => h.commandOutput step _ r

theorem runAgent (h : ReadsTools env env' R) (step : Step Unit) (template : String) :
    R Value (Run.runAgent env step template) (Run.runAgent env' step template) := by
  unfold Run.runAgent
  rw [h.workingDir_eq, h.modelOf_eq, h.config_eq, h.defaults_eq]
  refine h.bind (h.attach template) fun prompt => h.bind h.currentVars fun vars =>
    h.bind (h.session _ _) fun outcome => ?_
  exact h.bind (h.emit _) fun _ => h.pure _

theorem runPrompt (h : ReadsTools env env' R) (step : Step Unit) (template : String) :
    R Value (Run.runPrompt env step template) (Run.runPrompt env' step template) := by
  unfold Run.runPrompt
  rw [h.workingDir_eq, h.modelOf_eq, h.config_eq, h.defaults_eq]
  refine h.bind (h.attach template) fun prompt => h.bind h.currentVars fun vars => ?_
  exact h.bind (h.program _ _ _ _) fun r => h.commandOutput step _ r

end ReadsTools

theorem ComposesTools.runAdapter {env : Setting W} {env' : Setting V}
    (h : ComposesTools env env' R) (step : Step Unit) (path name : String) (params : Value) :
    R Value (Run.runAdapter env step path name params)
      (Run.runAdapter env' step path name params) := by
  unfold Run.runAdapter
  rw [h.toReadsTools.workingDir_eq]
  refine h.bind h.currentVars fun vars => h.bind (h.emit _) fun _ =>
    h.bind (h.adapter _ _ _) fun reply => h.bind (h.changeVars fun _ => reply.vars) fun _ => ?_
  cases reply.outcome with
  | ok v => exact h.pure v
  | error message => exact h.fail rfl

/-! ## Loops -/

/-- A pass, and what it asked of its loop. -/
def signalled (pass : Run W α) : Run W (α × Signal) := do
  let a ← pass
  let signal ← takeSignal
  return (a, signal)

theorem ComposesReads.signalled (h : ComposesReads R) (ht : R Signal takeSignal takeSignal)
    {pass : Run W α} {pass' : Run V α} (hp : R α pass pass') :
    R (α × Signal) (Run.signalled pass) (Run.signalled pass') :=
  h.bind hp fun _ => h.bind ht fun _ => h.pure _

theorem bind_takeSignal (pass : Run W α) (k : α → Signal → Run W β) :
    (pass >>= fun a => takeSignal >>= k a) = (signalled pass >>= fun p => k p.1 p.2) := by
  simp only [signalled, bind_assoc, pure_bind]

namespace BindsLoops

/-- What follows a pass begins when the signal of the pass is taken. -/
theorem bind_signalled {names : List String} (h : BindsLoops R names) {pass : Run W α}
    {pass' : Run V α} {k : α → Signal → Run W β} {k' : α → Signal → Run V β}
    (hp : R (α × Signal) (signalled pass) (signalled pass'))
    (hk : ∀ a signal, R β (k a signal) (k' a signal)) :
    R β (pass >>= fun a => takeSignal >>= k a) (pass' >>= fun a => takeSignal >>= k' a) := by
  rw [bind_takeSignal, bind_takeSignal]
  exact h.bind hp fun p => hk p.1 p.2

variable {pass : Run W Unit} {pass' : Run V Unit}

theorem foreachPasses {loop : ForeachLoop} (h : BindsLoops R [loop.itemVar, loop.indexVar])
    (hp : R (Unit × Signal) (signalled pass) (signalled pass')) (site : LoopSite)
    (items : List Value) : ∀ index, R ForeachSummary (Run.foreachPasses site loop pass index items)
      (Run.foreachPasses site loop pass' index items) := by
  induction items with
  | nil => intro index; exact h.pure _
  | cons item rest ih =>
    intro index
    refine h.bind (h.toComposesReads.bindItem h.bindVar _ _) fun _ =>
      h.bind (h.setCursor index) fun _ =>
        h.bind_signalled hp fun _ signal => relation_ite (h.pure _) ?_
    refine h.bind (h.holdsIf _) fun stop => relation_ite ?_ (ih _)
    exact h.bind (h.emit _) fun _ => h.pure _

theorem whilePasses {loop : WhileLoop} (h : BindsLoops R [loop.counterVar])
    (hp : R (Unit × Signal) (signalled pass) (signalled pass')) (left : Nat) :
    ∀ done, R WhileSummary (Run.whilePasses loop pass left done)
      (Run.whilePasses loop pass' left done) := by
  induction left with
  | zero =>
    intro done
    rw [Run.whilePasses, Run.whilePasses]
    exact h.bind (h.holds _) fun holds => relation_ite (h.pure _) (h.pure _)
  | succ left ih =>
    intro done
    rw [Run.whilePasses, Run.whilePasses]
    refine h.bind (h.holds _) fun holds => relation_ite (h.pure _) ?_
    refine h.bind (h.setCursor done) fun _ => h.bind (h.bindVar _ List.mem_cons_self _) fun _ => ?_
    exact h.bind_signalled hp fun _ signal => relation_ite (h.pure _) (ih _)

theorem rangePasses {loop : RangeLoop} (h : BindsLoops R [loop.var])
    (hp : R (Unit × Signal) (signalled pass) (signalled pass')) (first : Int) (left : Nat) :
    ∀ done, R Nat (Run.rangePasses loop first pass left done)
      (Run.rangePasses loop first pass' left done) := by
  induction left with
  | zero => intro done; exact h.pure _
  | succ left ih =>
    intro done
    refine h.bind (h.bindVar _ List.mem_cons_self _) fun _ => h.bind (h.setCursor done) fun _ => ?_
    exact h.bind_signalled hp fun _ signal => relation_ite (h.pure _) (ih _)

theorem retryPasses {site : LoopSite} {loop : RetryLoop} (h : BindsLoops R [loop.attemptVar])
    (hp : ∀ number, R (Option String × Signal) (signalled (tryPass site loop pass number))
      (signalled (tryPass site loop pass' number))) (left : Nat) :
    ∀ done lastError, R RetrySummary (Run.retryPasses site loop pass left done lastError)
      (Run.retryPasses site loop pass' left done lastError) := by
  induction left with
  | zero => intro done lastError; exact h.pure _
  | succ left ih =>
    intro done lastError
    refine h.bind (h.setCursor done) fun _ => h.bind (h.bindVar _ List.mem_cons_self _) fun _ =>
      h.bind_signalled (hp _) fun error signal => ?_
    exact h.bind (h.succeeded _ _) fun success => relation_ite (h.pure _) (ih _ _)

theorem foreachLoop {loop : ForeachLoop} (h : BindsLoops R [loop.itemVar, loop.indexVar])
    (hpanic : PanicsWith sorter R) (hp : R (Unit × Signal) (signalled pass) (signalled pass'))
    (site : LoopSite) :
    R Value (Run.foreachLoop sorter site loop pass) (Run.foreachLoop sorter site loop pass') := by
  refine h.inFrame site .iteration
    (h.bind (h.toComposesReads.itemsOf h.bindVar hpanic _) fun items =>
      h.bind (h.setTotal _) fun _ => h.bind (h.emit _) fun _ => ?_)
  exact h.bind (h.foreachPasses hp _ _ _) fun _ => h.pure _

theorem whileLoop {loop : WhileLoop} (h : BindsLoops R [loop.counterVar])
    (hp : R (Unit × Signal) (signalled pass) (signalled pass')) (site : LoopSite) :
    R Value (Run.whileLoop site loop pass) (Run.whileLoop site loop pass') := by
  refine h.inFrame site .whilst (h.bind (h.whilePasses hp _ _) fun summary => ?_)
  exact relation_ite (h.bind (h.exhausted _ _ _ _) fun _ => h.pure _) (h.pure _)

theorem rangeLoop {loop : RangeLoop} (h : BindsLoops R [loop.var])
    (hp : R (Unit × Signal) (signalled pass) (signalled pass')) (site : LoopSite) :
    R Value (Run.rangeLoop site loop pass) (Run.rangeLoop site loop pass') := by
  refine h.inFrame site .range (h.bind h.currentVars fun vars =>
    h.bind (h.check _ _) fun first => h.bind (h.check _ _) fun last => ?_)
  refine h.bind (h.setTotal _) fun _ => h.bind (h.emit _) fun _ => ?_
  exact h.bind (h.rangePasses hp _ _ _) fun _ => h.pure _

theorem retryLoop {site : LoopSite} {loop : RetryLoop} (h : BindsLoops R [loop.attemptVar])
    (hp : ∀ number, R (Option String × Signal) (signalled (tryPass site loop pass number))
      (signalled (tryPass site loop pass' number))) :
    R Value (Run.retryLoop site loop pass) (Run.retryLoop site loop pass') := by
  refine h.inFrame site .retry (h.bind (h.setTotal _) fun _ =>
    h.bind (h.retryPasses hp _ _ _) fun summary => ?_)
  refine relation_ite (h.bind (h.emit _) fun _ => h.pure _) (relation_ite ?_ (h.pure _))
  exact h.bind (h.exhausted _ _ _ _) fun _ => h.pure _

end BindsLoops

namespace ComposesLoops

variable {pass : Run W Unit} {pass' : Run V Unit}

theorem binds (h : ComposesLoops R) (names : List String) : BindsLoops R names where
  toComposesReads := h.toComposesReads
  bindVar name _ value := h.bindVar name value
  setCursor := h.setCursor
  setTotal := h.setTotal
  inFrame site kind hm := h.inFrame site kind names hm

theorem foreachLoop (h : ComposesLoops R) (hpanic : PanicsWith sorter R)
    (hp : R (Unit × Signal) (signalled pass) (signalled pass')) (site : LoopSite)
    (loop : ForeachLoop) :
    R Value (Run.foreachLoop sorter site loop pass) (Run.foreachLoop sorter site loop pass') :=
  (h.binds _).foreachLoop hpanic hp site

theorem whileLoop (h : ComposesLoops R)
    (hp : R (Unit × Signal) (signalled pass) (signalled pass')) (site : LoopSite)
    (loop : WhileLoop) :
    R Value (Run.whileLoop site loop pass) (Run.whileLoop site loop pass') :=
  (h.binds _).whileLoop hp site

theorem rangeLoop (h : ComposesLoops R)
    (hp : R (Unit × Signal) (signalled pass) (signalled pass')) (site : LoopSite)
    (loop : RangeLoop) :
    R Value (Run.rangeLoop site loop pass) (Run.rangeLoop site loop pass') :=
  (h.binds _).rangeLoop hp site

theorem retryLoop (h : ComposesLoops R) {site : LoopSite} {loop : RetryLoop}
    (hp : ∀ number, R (Option String × Signal) (signalled (tryPass site loop pass number))
      (signalled (tryPass site loop pass' number))) :
    R Value (Run.retryLoop site loop pass) (Run.retryLoop site loop pass') :=
  (h.binds _).retryLoop hp

end ComposesLoops

/-! ## Properties -/

section Properties

variable {T : (α : Type) → Run W α → Prop} {pass : Run W Unit}

/-- A property of parts, as a relation that looks at the first of two alone. -/
abbrev PartRelation.ofProperty (T : (α : Type) → Run W α → Prop) : PartRelation W W :=
  fun α m _ => T α m

theorem ComposesLoops.foreachLoop_self (h : ComposesLoops (.ofProperty T))
    (hpanic : PanicsWith sorter (.ofProperty T)) (hp : T (Unit × Signal) (Run.signalled pass))
    (site : LoopSite) (loop : ForeachLoop) :
    T Value (Run.foreachLoop sorter site loop pass) :=
  @foreachLoop W W _ _ pass pass h hpanic hp site loop

theorem ComposesLoops.whileLoop_self (h : ComposesLoops (.ofProperty T))
    (hp : T (Unit × Signal) (Run.signalled pass)) (site : LoopSite) (loop : WhileLoop) :
    T Value (Run.whileLoop site loop pass) :=
  @whileLoop W W _ pass pass h hp site loop

theorem ComposesLoops.rangeLoop_self (h : ComposesLoops (.ofProperty T))
    (hp : T (Unit × Signal) (Run.signalled pass)) (site : LoopSite) (loop : RangeLoop) :
    T Value (Run.rangeLoop site loop pass) :=
  @rangeLoop W W _ pass pass h hp site loop

theorem ComposesLoops.retryLoop_self (h : ComposesLoops (.ofProperty T)) {site : LoopSite}
    {loop : RetryLoop} (hp : ∀ number,
      T (Option String × Signal) (Run.signalled (tryPass site loop pass number))) :
    T Value (Run.retryLoop site loop pass) :=
  @retryLoop W W _ pass pass h site loop hp

theorem Composes.runShared_self (h : Composes (.ofProperty T)) {body : Run W Unit}
    (hb : ∀ before, T Unit (closing body (restoreInputs before))) (step : Step Unit)
    (path : String) (sig : Signature) (inputs : KeyMap Value) (outputs : KeyMap String) :
    T Value (Run.runShared step path sig inputs outputs body) :=
  @runShared W W _ h body body hb step path sig inputs outputs

end Properties

/-! ## Visits -/

/-- Two relations that are passed on are passed on together. -/
theorem Steers.and {S : PartRelation W V} (hr : Steers R) (hs : Steers S) :
    Steers fun α m m' => R α m m' ∧ S α m m' where
  pure a := ⟨hr.pure a, hs.pure a⟩
  bind hm hf := ⟨hr.bind hm.1 fun a => (hf a).1, hs.bind hm.2 fun a => (hf a).2⟩
  fail hf := ⟨hr.fail hf, hs.fail hf⟩
  currentVars := ⟨hr.currentVars, hs.currentVars⟩
  emit event := ⟨hr.emit event, hs.emit event⟩
  reportAll lines := ⟨hr.reportAll lines, hs.reportAll lines⟩
  throw halt := ⟨hr.throw halt, hs.throw halt⟩
  progress := ⟨hr.progress, hs.progress⟩
  steer f hv hl := ⟨hr.steer f hv hl, hs.steer f hv hl⟩
  attempt hm := ⟨hr.attempt hm.1, hs.attempt hm.2⟩

/-- Stops of the same names whose visits are related. -/
def RelatedStops (R : PartRelation W V) : List (Stop W) → List (Stop V) → Prop :=
  List.Forall₂ fun stop stop' => stop.name = stop'.name ∧
    ∀ scope index, R Bool (stop.visit scope index) (stop'.visit scope index)

variable {stops : List (Stop W)} {stops' : List (Stop V)}

theorem RelatedStops.findIdx? (h : RelatedStops R stops stops') (target : String) :
    stops.findIdx? (·.name == target) = stops'.findIdx? (·.name == target) := by
  induction h with
  | nil => rfl
  | cons hstop _ ih => rw [List.findIdx?_cons, List.findIdx?_cons, hstop.1, ih]

theorem RelatedStops.getElem? (h : RelatedStops R stops stops') (index : Nat) :
    (stops[index]? = none ∧ stops'[index]? = none) ∨
      ∃ stop stop', stops[index]? = some stop ∧ stops'[index]? = some stop' ∧
        stop.name = stop'.name ∧
          ∀ scope index, R Bool (stop.visit scope index) (stop'.visit scope index) := by
  induction h generalizing index with
  | nil => exact .inl ⟨rfl, rfl⟩
  | cons hstop _ ih =>
    cases index with
    | zero => exact .inr ⟨_, _, rfl, rfl, hstop.1, hstop.2⟩
    | succ index => exact ih index

namespace Steers

theorem takeSignal (h : Steers R) : R Signal Run.takeSignal Run.takeSignal :=
  h.bind h.progress fun _ => h.bind (h.steer _ (fun _ => rfl) fun _ => rfl) fun _ => h.pure _

theorem tryPass (h : Steers R) {pass : Run W Unit} {pass' : Run V Unit}
    (hp : R Unit pass pass') (site : LoopSite) (loop : RetryLoop) (number : Nat) :
    R (Option String) (Run.tryPass site loop pass number) (Run.tryPass site loop pass' number) := by
  refine h.bind (h.attempt hp) fun r => ?_
  match r with
  | .ok () => exact h.pure none
  | .error failure =>
    exact relation_ite (h.bind (h.emit _) fun _ => h.pure _) (h.throw _)

theorem nextIndex (h : Steers R) (hs : RelatedStops R stops stops') (scope name : String)
    (index : Nat) :
    R (Option Nat) (Run.nextIndex stops scope name index)
      (Run.nextIndex stops' scope name index) := by
  refine h.bind h.progress fun p => relation_ite (h.pure _) ?_
  cases p.jump with
  | none => exact h.pure _
  | some target =>
    refine h.bind (h.steer _ (fun _ => rfl) fun _ => rfl) fun _ => ?_
    rw [hs.findIdx? target]
    cases stops'.findIdx? (·.name == target) with
    | none => exact h.throw _
    | some j => exact h.bind (h.emit _) fun _ => h.pure _

/-- Visits that are related lead to related runs of lists. -/
theorem visitFrom (h : Steers R) (hs : RelatedStops R stops stops') (scope : String) (fuel : Nat) :
    ∀ index, R Unit (Run.visitFrom stops scope fuel index)
      (Run.visitFrom stops' scope fuel index) := by
  induction fuel with
  | zero =>
    intro index
    rw [Run.visitFrom, Run.visitFrom]
    rcases hs.getElem? index with ⟨hn, hn'⟩ | ⟨stop, stop', hg, hg', -, -⟩
    · rw [hn, hn']
      exact h.pure ()
    · rw [hg, hg']
      exact h.throw _
  | succ fuel ih =>
    intro index
    rw [Run.visitFrom, Run.visitFrom]
    rcases hs.getElem? index with ⟨hn, hn'⟩ | ⟨stop, stop', hg, hg', hname, hvisit⟩
    · rw [hn, hn']
      exact h.pure ()
    · rw [hg, hg']
      refine h.bind (hvisit scope index) fun ran => relation_ite ?_ (ih _)
      rw [hname]
      refine h.bind (h.nextIndex hs _ _ _) fun next => ?_
      match next with
      | some j => exact ih j
      | none => exact h.pure ()

end Steers

namespace Congruent

theorem steers (h : Congruent R) : Steers R where
  toComposesReads := h.toComposesReads
  throw := h.throw
  progress := h.progress
  steer f _ _ := h.update f
  attempt := h.attempt

theorem panics (h : Congruent R) : PanicsWith sorter R := fun _ => h.throw .panicked

theorem composesLoops (h : Congruent R) : ComposesLoops R where
  toComposes := h.toComposes
  setCursor _ := h.update _
  setTotal _ := h.update _
  inFrame _ _ _ hm := h.bind (h.update _) fun _ => h.closing _ hm

theorem visit (h : Congruent R) {action : String → Nat → Run W Value}
    {action' : String → Nat → Run V Value}
    (ha : ∀ path index, R Value (action path index) (action' path index)) (step : Step Unit)
    (scope : String) (index : Nat) :
    R Bool (Run.visit step action scope index) (Run.visit step action' scope index) := by
  refine h.bind (h.update _) fun _ => h.bind (h.emit _) fun _ =>
    h.bind (h.skips step) fun skipped => relation_ite ?_ ?_
  · exact h.bind (h.emit _) fun _ => h.bind (h.record _) fun _ => h.pure _
  · refine h.bind (h.emit _) fun _ => h.bind (h.attempt (ha _ _)) fun r => ?_
    match r with
    | .ok output =>
      refine h.bind (h.bind (h.record _) fun _ => ?_) fun _ => h.pure _
      cases step.outputVar with
      | none => exact h.pure _
      | some var => exact h.bindVar _ _
    | .error failure =>
      refine h.bind (relation_ite ?_ ?_) fun _ => h.pure _
      · exact h.bind (h.emit _) fun _ => h.bind (h.record _) fun _ => h.bindVar _ _
      · exact h.bind (h.emit _) fun _ => h.bind (h.record _) fun _ => h.throw _

end Congruent

end Run

end Runbook
