import Runbook.Proofs.Run.Told
import Runbook.Proofs.Workflow.Checked

/-!
# How far failures get

A failure that no step can go past ends the run wherever it comes up, and the failure of a step gets
as far as the first step around it that the run goes past, or the first attempt.

* `CutShort` says of happenings that nothing but ends comes after a failure that no step can go past;
* `Visit.Of.cutShort` says so of every visit, by induction on the visits inside it;
* `Workflow.carriesFailures` is the result.
-/

namespace Runbook

/-- The failure of a step, if it is one that no step can go past. -/
def Happening.fatal? : Happening → Option Failure
  | .ended _ (.error failure) => if failure.isStepFailure then none else some failure
  | .ended _ (.ok _) | .turn _ | .dispatched _ | .left _ _ => none

theorem Happening.fatal?_eq_some_iff {what : Happening} {failure : Failure} :
    what.fatal? = some failure ↔
      ∃ place, what = .ended place (.error failure) ∧ failure.isStepFailure = false := by
  constructor
  · intro h
    unfold fatal? at h
    split at h
    · split at h
      · cases h
      · next hf =>
        cases h
        exact ⟨_, rfl, Bool.eq_false_iff.2 hf⟩
    · cases h
    · cases h
    · cases h
    · cases h
  · rintro ⟨place, rfl, hf⟩
    rw [fatal?, hf]
    rfl

/-- After a failure that no step can go past there are only ends with the same failure, and it is
the halt. -/
def CutShort (halt? : Option Halt) : List Happening → Prop
  | [] => True
  | what :: rest =>
    (∀ failure, what.fatal? = some failure →
      (∀ other ∈ rest, other.fatal? = some failure) ∧ halt? = some (.failed failure)) ∧
      CutShort halt? rest

section CutShort

variable {α β : Type} {halt halt' : Option Halt} {l l' : List Happening}

/-- What is cut short may be followed by what ends with the same failure. -/
theorem CutShort.append (h : CutShort halt l) (h' : CutShort halt' l')
    (hl : ∀ failure, failure.isStepFailure = false → halt = some (.failed failure) →
      (∀ other ∈ l', other.fatal? = some failure) ∧ halt' = some (.failed failure)) :
    CutShort halt' (l ++ l') := by
  induction l with
  | nil => exact h'
  | cons what rest ih =>
    refine ⟨fun failure hf => ?_, ih h.2⟩
    obtain ⟨hrest, hhalt⟩ := h.1 failure hf
    obtain ⟨_, _, hfatal⟩ := Happening.fatal?_eq_some_iff.1 hf
    obtain ⟨hl', hhalt'⟩ := hl failure hfatal hhalt
    exact ⟨fun other ho => (List.mem_append.1 ho).elim (hrest other) (hl' other), hhalt'⟩

theorem CutShort.weaken (h : CutShort halt l)
    (hh : ∀ failure, failure.isStepFailure = false → halt = some (.failed failure) →
      halt' = some (.failed failure)) : CutShort halt' l := by
  have hall : CutShort halt' (l ++ []) := h.append trivial fun failure hf he =>
    ⟨fun _ ho => absurd ho List.not_mem_nil, hh failure hf he⟩
  rwa [List.append_nil] at hall

/-- Items of which nothing comes after one that halts are cut short by the last one. -/
theorem cutShort_flatMap {halt? : β → Option Halt} {end_ : Except Halt α} {f : β → List Happening}
    {items : List β} (h : HaltsLast halt? end_ items)
    (hf : ∀ x ∈ items, CutShort (halt? x) (f x)) :
    CutShort (items.getLast?.bind halt?) (items.flatMap f) := by
  induction items with
  | nil => trivial
  | cons x rest ih =>
    rw [List.flatMap_cons]
    have hrest := ih h.2 fun y hy => hf y (List.mem_cons_of_mem _ hy)
    refine (hf x List.mem_cons_self).append ?_ fun failure _ hx => ?_
    · cases rest with
      | nil => trivial
      | cons y more => rwa [List.getLast?_cons_cons]
    · obtain ⟨rfl, -⟩ := h.1 _ hx
      exact ⟨fun _ ho => absurd ho List.not_mem_nil, hx⟩

theorem CutShort.of_append {earlier later : List Happening} {what : Happening} {failure : Failure}
    (h : CutShort halt (earlier ++ what :: later)) (hf : what.fatal? = some failure) :
    (∀ other ∈ later, other.fatal? = some failure) ∧ halt = some (.failed failure) := by
  induction earlier with
  | nil => exact h.1 failure hf
  | cons first rest ih => exact ih h.2

end CutShort

namespace Visit

variable {block : Block} {scope : String} {v : Visit}

theorem goesPast_eq_false {T : Type} (step : Step T) {failure : Failure}
    (hf : failure.isStepFailure = false) : step.goesPast (.failed failure) = false := by
  rw [Step.goesPast, hf]
  rfl

theorem absorbs_eq_false (action : Action) {failure : Failure}
    (hf : failure.isStepFailure = false) : action.absorbs (.failed failure) = false := by
  unfold Action.absorbs
  split
  · next heq => cases heq; exact hf
  · rfl

/-- A pass is cut short as far as its action sees. -/
theorem Pass.cutShort {pass : List Visit} (h : Pass block scope pass)
    (hv : ∀ v ∈ pass, CutShort v.halt? v.happenings) (action : Action) :
    CutShort (passHalt? action pass) (pass.flatMap happenings) := by
  obtain ⟨_, hlast⟩ := h.last
  refine (cutShort_flatMap hlast hv).weaken fun failure hf hhalt => ?_
  rw [passHalt?, hhalt, Option.filter_some, absorbs_eq_false action hf]
  rfl

/-- The end of a dispatch, and what was cut short inside it. -/
theorem cutShort_dispatched (step : Step Action) (place : Place) (passes : List (List Visit))
    {result : Except Halt Value} {halt : Option Halt} {inner : List Happening}
    (hin : CutShort halt inner) (hr : ∀ h, halt = some h → result = .error h) :
    CutShort (dispatched step place passes result).halt?
      (inner ++ (dispatched step place passes result).ends) := by
  match result with
  | .ok output =>
    exact hin.append ⟨fun _ hf => (by cases hf), trivial⟩ fun _ _ hhalt => by cases hr _ hhalt
  | .error .outOfFuel | .error .panicked =>
    exact hin.append trivial fun _ _ hhalt => by cases hr _ hhalt
  | .error (.failed failure) =>
    have hends : ∀ other, failure.isStepFailure = false → other = failure →
        (Happening.ended place (.error failure)).fatal? = some other ∧
          (dispatched step place passes (.error (.failed failure))).halt? =
            some (.failed other) := by
      rintro _ hf rfl
      refine ⟨Happening.fatal?_eq_some_iff.2 ⟨place, rfl, hf⟩, ?_⟩
      rw [halt?, goesPast_eq_false step hf]
      rfl
    refine hin.append ⟨fun other ho => ?_, trivial⟩ fun other hf hhalt => ?_
    · obtain ⟨_, heq, hf⟩ := Happening.fatal?_eq_some_iff.1 ho
      cases heq
      exact ⟨fun _ h => absurd h List.not_mem_nil, (hends _ hf rfl).2⟩
    · cases hr _ hhalt
      obtain ⟨hfatal, hv⟩ := hends _ hf rfl
      exact ⟨fun _ h => List.mem_singleton.1 h ▸ hfatal, hv⟩

/-- Nothing but ends comes after a failure that no step can go past, and it halts the visit. -/
theorem Of.cutShort (h : v.Of block scope) : CutShort v.halt? v.happenings := by
  induction h with
  | skipped _ _ => exact ⟨fun _ hf => (by cases hf), trivial⟩
  | @dispatched _ _ step place passes result _ _ inside last halts ih =>
    rw [happenings_eq, List.append_assoc]
    have hin : CutShort (passes.getLast?.bind (passHalt? step.tool))
        (passes.flatMap fun pass => pass.flatMap happenings) :=
      cutShort_flatMap halts fun pass hpass =>
        Pass.cutShort ⟨inside pass hpass, last pass hpass⟩ (ih pass hpass) step.tool
    have hall := cutShort_dispatched step place passes hin fun halt hh => by
      obtain ⟨pass, hpass, hhalt⟩ := Option.bind_eq_some_iff.1 hh
      exact (halts.getLast?_eq (List.mem_of_getLast? hpass) hhalt).2
    exact ⟨fun _ hf => (by cases hf), fun _ hf => (by cases hf), hall⟩

end Visit

/-! ## Results -/

section Results

variable {W : Type}

/-- A run that ends with a failure. -/
def Workflow.FailsWith (w : Workflow) (env : Setting W) (overrides : List (String × Value))
    (directory : String) (world : W) (failure : Failure) : Prop :=
  ∃ report world', w.run env overrides directory world = (some report, world') ∧
    report.failure = some failure

/-- The failures of a run get as far as they should. -/
structure Workflow.CarriesFailures (w : Workflow) (env : Setting W)
    (overrides : List (String × Value)) (directory : String) (world : W) : Prop where
  /-- The history is one of this run. -/
  watched : Run.block { env with defaults := w.defaults } w.body ""
      (w.start env.config overrides directory world) =
    ((w.watch env overrides directory world).1, (w.watch env overrides directory world).2.forget)
  /-- Once a step has ended with a failure that is not that of a step, wherever it stands, no turn
  of a step comes and none is dispatched, and the run ends with that failure. -/
  fatal : ∀ later earlier place failure progress,
    w.history env overrides directory world =
      later ++ ⟨.ended place (.error failure), progress⟩ :: earlier →
    failure.isStepFailure = false →
      (∀ m ∈ later, ∀ other, m.what ≠ .turn other ∧ m.what ≠ .dispatched other) ∧
        w.FailsWith env overrides directory world failure
  /-- The failure of a step at which the run stops ends all that is around it, up to the first
  attempt or the first step that the run goes past, or else the run. -/
  carried : ∃ visits, w.Visited env overrides directory world visits ∧
    ∀ outer v failure, Nested visits outer v →
      v.result? = some (.error (.failed failure)) → failure.isStepFailure = true →
      v.step.onError = .stop →
        Carried (.failed failure) (fun last => visits.getLast? = some last ∧
          w.FailsWith env overrides directory world failure) v outer

/-- A run that is halted with a failure ends with it. -/
theorem Workflow.failsWith_of_watch {w : Workflow} {env : Setting W}
    {overrides : List (String × Value)} {directory : String} {world : W} {failure : Failure}
    (h : (w.watch env overrides directory world).1 = .error (.failed failure)) :
    w.FailsWith env overrides directory world failure := by
  have hrun := w.forget_watch env overrides directory world
  rw [h] at hrun
  refine ⟨w.halted failure (w.watch env overrides directory world).2.forget,
    (w.watch env overrides directory world).2.forget.world, ?_, rfl⟩
  rw [Workflow.run, hrun]

/-- **No failure gets lost or changed on its way**, whatever the steps do: one that is not that of a
step ends the run at once, and one that is gets out of all steps and lists of steps around it until
an attempt or a step that the run goes past absorbs it. -/
theorem Workflow.carriesFailures (w : Workflow) (env : Setting W)
    (overrides : List (String × Value)) (directory : String) (world : W) :
    w.CarriesFailures env overrides directory world := by
  obtain ⟨visits, hvisited, -, hhalts, -⟩ := w.watch_visited env overrides directory world
  refine ⟨hvisited.watched, ?_, visits, hvisited, ?_⟩
  · intro later earlier place failure progress hhistory hf
    have hcut := cutShort_flatMap hhalts fun v hv => (hvisited.of v hv).cutShort
    rw [← hvisited.told, hhistory, History.told_append, History.told_cons, List.append_assoc] at hcut
    obtain ⟨hlater, hhalt⟩ := hcut.of_append (Happening.fatal?_eq_some_iff.2 ⟨place, rfl, hf⟩)
    refine ⟨fun m hm other => ?_, ?_⟩
    · -- whatever is told of later is the end of a step with this failure
      have hmem : m.what.ofStep = true → m.what.fatal? = some failure := fun hof =>
        hlater _ (History.mem_told hm hof)
      refine ⟨fun hwhat => ?_, fun hwhat => ?_⟩
      · rw [hwhat] at hmem
        cases hmem rfl
      · rw [hwhat] at hmem
        cases hmem rfl
    · obtain ⟨v, hv, hhalt⟩ := Option.bind_eq_some_iff.1 hhalt
      exact Workflow.failsWith_of_watch (hhalts.getLast?_eq (List.mem_of_getLast? hv) hhalt).2
  · intro outer v failure hnested hresult _ hstop
    have hhalt : v.halt? = some (.failed failure) := by
      refine Visit.halt?_eq_some_iff.2 ⟨hresult, ?_⟩
      rw [Step.goesPast, hstop, Bool.and_eq_false_iff]
      exact .inr rfl
    exact (hnested.carried hvisited.of hhalts hhalt).mono fun last hlast =>
      ⟨hlast.1, Workflow.failsWith_of_watch hlast.2⟩

end Results

/-- Attempts at a command, with a step around it and one inside that both go past failures. -/
def tripped : Definition where
  name := "tripped"
  description := none
  version := "1"
  vars := .empty
  defaults := {}
  steps :=
    let goOn (step : StepDefinition) : StepDefinition := { step with onError := .goOn }
    [goOn (Builtin.plainStep "often" (.retry ⟨3, 0, none, "attempt", .goOn⟩
      [goOn (Builtin.plainStep "trip" (.bash "false" none))]))]

theorem tripped_happens : ∃ w t later earlier place progress,
    tripped.compile none bareCompiler .empty = (.ok w, t) ∧
      w.history (bareSetting 100) [] "" () =
        later ++ ⟨.ended place (.error (.spawn "no shell")), progress⟩ :: earlier ∧
      place.path = "often/trip" ∧ later.length = 1 :=
  ⟨_, _, [_], _, _, _, rfl, rfl, rfl, rfl⟩

/-- Neither the step, nor the attempts, nor the step around them keep the command that cannot be
started from ending the run. -/
theorem Workflow.carriesFailures_tripped : ∃ w t,
    tripped.compile none bareCompiler .empty = (.ok w, t) ∧
      w.FailsWith (bareSetting 100) [] "" () (.spawn "no shell") := by
  obtain ⟨w, t, later, earlier, place, progress, h, hhistory, -, -⟩ := tripped_happens
  have hfails := (w.carriesFailures (bareSetting 100) [] "" ()).fatal later earlier place _ progress
    hhistory rfl
  exact ⟨w, t, h, hfails.2⟩

end Runbook
