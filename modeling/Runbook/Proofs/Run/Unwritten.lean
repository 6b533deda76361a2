import Runbook.Proofs.Run.Bindings
import Runbook.Proofs.Run.OwnSteps
import Runbook.Proofs.Run.Outputs
import Runbook.Proofs.Template.Pieces

/-!
# Outputs that a call leaves unwritten

A call has no variables of its own but its inputs, for its steps run on the variables of the caller.
So an output whose variable none of them writes is what the caller has there.

* `Written` says that steps gave a variable a value that lasts, in whatever list they stand;
* `LeftAs` says that a variable has the value that it had, or was written since;
* `retains_loop` and `retains_runShared` say that loops and calls keep a variable this way, and
  `retains_deepBlock` that all lists of steps do;
* `act_shared_unwritten` says what an output is that no step wrote, whatever the caller is.
-/

namespace Runbook

open Portion

/-- Steps gave a variable a value: they overwrote it, or it is the one in which a failure is noted
that the run goes past, and there was one.  What is done to the variables of a loop inside of it is
undone at its end and does not count. -/
inductive Written (name : String) : OwnHistory → Prop where
  | overwritten {history} (h : Overwritten name history) : Written name history
  | noticed {failure step around vars before} (hname : name = Run.lastErrorVar)
    (hfails : failure.isStepFailure = true) (hgoesOn : step.onError = .goOn)
    (hout : name ∉ around) :
    Written name (⟨.ended (.error failure), step, around, vars⟩ :: before)
  | later {moment before} (h : Written name before) : Written name (moment :: before)

/-- Whether what a step does has come to its end. -/
def Phase.isEnded : Phase → Bool
  | .up | .dispatched => false
  | .ended _ => true

/-- What was written was so by a step that came to its end. -/
theorem Written.exists_ended {name : String} {history : OwnHistory} (h : Written name history) :
    ∃ moment ∈ history, moment.phase.isEnded = true := by
  have later {moment : OwnMoment} {before : OwnHistory}
      (ih : ∃ m ∈ before, m.phase.isEnded = true) :
      ∃ m ∈ moment :: before, m.phase.isEnded = true :=
    ih.imp fun _ hm => ⟨List.mem_cons_of_mem _ hm.1, hm.2⟩
  induction h with
  | overwritten h =>
    induction h with
    | written _ _ | changed _ _ _ => exact ⟨_, List.mem_cons_self, rfl⟩
    | later _ ih => exact later ih
  | noticed _ _ _ _ => exact ⟨_, List.mem_cons_self, rfl⟩
  | later _ ih => exact later ih

/-- Where no step came to its end nothing was written. -/
theorem not_written {name : String} {history : OwnHistory}
    (h : history.any (·.phase.isEnded) = false) : ¬ Written name history := fun hw => by
  rw [List.any_eq_true.2 hw.exists_ended] at h
  cases h

namespace Run

variable {W : Type} {name : String} {v : Option Value}

/-! ## What is kept of a variable -/

/-- The variable is as it was, or it was written. -/
def LeftAs (name : String) (v : Option Value) (s : RunState (W × OwnHistory)) : Prop :=
  s.progress.vars.find? name = v ∨ Written name s.world.2

theorem seen_leftAs : SeenIn name (LeftAs name v : RunState (W × OwnHistory) → Prop) := by
  intro s t h hs
  rw [bindingView_eq_iff] at h
  rwa [LeftAs, h.1, h.2]

theorem LeftAs.noted {s : RunState (W × OwnHistory)} (h : LeftAs name v s) (phase : Phase)
    (step : Step Action) (around : List String) : LeftAs name v (ownNoted phase step around s) :=
  h.imp id .later

/-- What was written stays written. -/
theorem unbinding_leftAs {s : RunState (W × OwnHistory)} (h : Written name s.world.2) :
    Unbinding (LeftAs name v) s :=
  fun _ ht => .inr (ht ▸ h)

section Dispatch

variable {own : Step Action} {around : List String} {part : Run (W × OwnHistory) Value}
  {visited : Step Unit}

/-- A dispatched step keeps a variable if it does so once it is noted how it ended. -/
theorem dispatchRetains (hout : name ∉ around) (hvar : visited.outputVar = own.outputVar)
    (herror : visited.onError = own.onError)
    (h : ∀ s, LeftAs name v s → Ends part (ownNoted .dispatched own around s) fun r t =>
      match r with
      | .ok value => LeftAs name v (ownNoted (.ended (.ok value)) own around t)
      | .error (.failed failure) =>
        LeftAs name v (ownNoted (.ended (.error failure)) own around t)
      | .error .outOfFuel | .error .panicked => LeftAs name v t) :
    DispatchRetains name (LeftAs name v) visited (dispatchOwn own around part) := by
  intro s hs
  have hpart := h s hs
  rw [Ends] at hpart
  rw [Ends, dispatchOwn_apply]
  rcases hp : part (ownNoted .dispatched own around s) with ⟨(failure | _ | _) | value, t⟩ <;>
    rw [hp] at hpart
  · refine ⟨hpart, fun hfails hgoesOn hname => unbinding_leftAs ?_⟩
    exact .noticed hname hfails (herror ▸ hgoesOn) hout
  · exact ⟨hpart, trivial⟩
  · exact ⟨hpart, trivial⟩
  · refine ⟨hpart, fun hbinds => unbinding_leftAs (.overwritten (.written ?_ hout))⟩
    rw [Step.writtenVars, ← hvar, hbinds]
    exact List.mem_append_left _ List.mem_cons_self

/-- A part that keeps a variable, or succeeds and its step is one that binds it. -/
def RetainsOrBinds (name : String) (v : Option Value) (own : Step Action)
    (part : Run (W × OwnHistory) Value) : Prop :=
  ∀ s, LeftAs name v s → Ends part s fun r t =>
    LeftAs name v t ∨ ((∃ value, r = .ok value) ∧ name ∈ own.writtenVars)

theorem dispatchRetains_of_part (hout : name ∉ around) (hvar : visited.outputVar = own.outputVar)
    (herror : visited.onError = own.onError) (h : RetainsOrBinds name v own part) :
    DispatchRetains name (LeftAs name v) visited (dispatchOwn own around part) := by
  refine dispatchRetains hout hvar herror fun s hs => (h _ (hs.noted _ _ _)).mono fun r t ht => ?_
  rcases ht with ht | ⟨⟨value, rfl⟩, hwritten⟩
  · match r with
    | .ok _ => exact ht.noted _ _ _
    | .error (.failed _) => exact ht.noted _ _ _
    | .error .outOfFuel | .error .panicked => exact ht
  · exact .inr (.overwritten (.written hwritten hout))

theorem dispatchRetains_of_leaves (hout : name ∉ around)
    (hvar : visited.outputVar = own.outputVar) (herror : visited.onError = own.onError)
    (h : LeavesVar name own part) :
    DispatchRetains name (LeftAs name v) visited (dispatchOwn own around part) := by
  refine dispatchRetains hout hvar herror fun s hs => (h _).mono fun r t ⟨hworld, hvars⟩ => ?_
  by_cases hsame : t.progress.vars.find? name = s.progress.vars.find? name
  · have ht : LeftAs name v t := seen_leftAs (ownNoted .dispatched own around s) t
      (bindingView_eq_iff.2 ⟨hsame, hworld⟩) (hs.noted _ _ _)
    match r with
    | .ok _ => exact ht.noted _ _ _
    | .error (.failed _) => exact ht.noted _ _ _
    | .error .outOfFuel | .error .panicked => exact ht
  · rcases hvars with hleft | ⟨⟨value, rfl⟩, hwritten⟩ | ⟨⟨adapter, params, htool⟩, hfuel, hpanic⟩
    · exact absurd hleft hsame
    · exact .inr (.overwritten (.written hwritten hout))
    · -- the moment before is the one in which the adapter was dispatched
      have hchanged (result : Except Failure Value) :
          LeftAs name v (ownNoted (.ended result) own around t) := by
        refine .inr (.overwritten ?_)
        show Overwritten name (_ :: t.world.2)
        rw [hworld]
        exact .changed htool hout hsame
      match r with
      | .ok _ => exact hchanged _
      | .error (.failed _) => exact hchanged _
      | .error .outOfFuel => exact absurd rfl hfuel
      | .error .panicked => exact absurd rfl hpanic

end Dispatch

/-! ## Loops and calls -/

section Inside

variable {env : Setting W} {around names : List String} {body : Block} {path : String}

/-- A loop outside of which the variable is not shadowed keeps it, if its passes do so that do not
shadow it either; its own variables it puts back. -/
theorem retains_loop {loop : Run (W × OwnHistory) Value}
    (hbuilt : ∀ {R : PartRelation (W × OwnHistory) (W × OwnHistory)},
      Steers R → BindsLoops R names → R Unit (deepBlock env (names ++ around) body path)
        (deepBlock env (names ++ around) body path) → R Value loop loop)
    (hput : PutsBack names loop) (hout : name ∉ around)
    (hbody : name ∉ names ++ around →
      Retains (LeftAs name v) (deepBlock env (names ++ around) body path)) :
    Retains (LeftAs name v) loop := by
  refine seen_leftAs.loop hbuilt (keepsLoops_deepBlock env _ body path) (fun hin => ?_)
    fun hin => hbody fun h => (List.mem_append.1 h).elim hin hout
  have hwritten : KeepsAccount (Written name) loop := by
    have hrelated := relatesOwn_keepsAccount env (P := fun _ => True) (fun _ _ _ => trivial)
      fun moment before _ h => (Written.later h : Written name (moment :: before))
    exact hbuilt hrelated.steers (hrelated.composesLoops.binds names)
      (related_deepBlock hrelated body trivial path)
  intro s hs
  refine ⟨?_, fun _ _ => trivial⟩
  rw [LeftAs, (hput s).2.2 name hin]
  exact hs.imp id fun h => (hwritten s h).1

/-- A call keeps what its steps keep, unless it copies an output over it. -/
theorem retains_runShared {callee : CompiledShared Action} {inputs : KeyMap Value}
    {outputs : KeyMap String} {own : Step Action} (htool : own.tool = .shared callee inputs outputs)
    (hname : name ≠ inputsVar) {part : Run (W × OwnHistory) Unit}
    (hbody : Retains (LeftAs name v) part) (step : Step Unit) :
    RetainsOrBinds name v own (runShared step path callee.signature inputs outputs part) := by
  intro s hs
  cases hbound : callee.signature.bindInputs inputs s.progress.vars with
  | error failure =>
    rw [Ends, runShared_error hbound]
    exact .inl hs
  | ok bound =>
    rw [Ends, runShared_ok hbound]
    have hbegin : LeftAs name v (calling path callee.signature inputs bound s) :=
      seen_leftAs s _ (bindingView_eq_iff.2 ⟨KeyMap.find?_insert_of_ne _ _ hname, rfl⟩) hs
    have hsteps := (hbody _ hbegin).1
    generalize part (calling path callee.signature inputs bound s) = left at hsteps ⊢
    obtain ⟨ended, t⟩ := left
    have hback : LeftAs name v (putBack s.progress.vars t) :=
      seen_leftAs t _ (bindingView_eq_iff.2 ⟨find?_putBack_of_ne _ t hname, rfl⟩) hsteps
    cases ended with
    | error halt => exact .inl hback
    | ok =>
      by_cases hcopied : name ∈ own.writtenVars
      · exact .inr ⟨⟨_, rfl⟩, hcopied⟩
      · refine .inl (seen_leftAs (putBack s.progress.vars t) _ (bindingView_eq_iff.2 ⟨?_, rfl⟩) hback)
        refine KeyMap.find?_insertAll_of_notMem ?_ _
        rw [outputBindings_names, keys_collectOutputs]
        rw [Step.writtenVars, htool, List.mem_append, not_or] at hcopied
        exact hcopied.2

end Inside

/-! ## All steps -/

mutual

/-- A step keeps a variable when it is dispatched, unless it is noted that it writes it. -/
theorem dispatchRetains_deepAct (env : Setting W) (hname : name ≠ inputsVar) (visited : Step Unit) :
    ∀ (action : Action) {around : List String}, name ∉ around → ∀ {own : Step Action},
      own.tool = action → visited.outputVar = own.outputVar → visited.onError = own.onError →
        ∀ (path : String) (index : Nat), DispatchRetains name (LeftAs name v) visited
          (dispatchOwn own around (deepAct env around visited action path index))
  | .foreach loop body, _, hout, _, _, hvar, herror, path, _ =>
    dispatchRetains_of_part hout hvar herror fun s hs => .inl (retains_loop
      (fun hs hb hp => hb.foreachLoop (fun _ => hs.throw _) (hs.signalled hs.takeSignal hp) _)
      (putsBack_foreachLoop (keepsLoops_deepBlock env _ body path) _ loop) hout
      (fun hbody => retains_deepBlock env hname body hbody path) s hs).1
  | .whilst loop body, _, hout, _, _, hvar, herror, path, _ =>
    dispatchRetains_of_part hout hvar herror fun s hs => .inl (retains_loop
      (fun hs hb hp => hb.whileLoop (hs.signalled hs.takeSignal hp) _)
      (putsBack_whileLoop (keepsLoops_deepBlock env _ body path) _ loop) hout
      (fun hbody => retains_deepBlock env hname body hbody path) s hs).1
  | .range loop body, _, hout, _, _, hvar, herror, path, _ =>
    dispatchRetains_of_part hout hvar herror fun s hs => .inl (retains_loop
      (fun hs hb hp => hb.rangeLoop (hs.signalled hs.takeSignal hp) _)
      (putsBack_rangeLoop (keepsLoops_deepBlock env _ body path) _ loop) hout
      (fun hbody => retains_deepBlock env hname body hbody path) s hs).1
  | .retry loop body, _, hout, _, _, hvar, herror, path, _ =>
    dispatchRetains_of_part hout hvar herror fun s hs => .inl (retains_loop
      (fun hs hb hp => hb.retryLoop fun number =>
        hs.signalled hs.takeSignal (hs.tryPass hp _ loop number))
      (putsBack_retryLoop (keepsLoops_deepBlock env _ body path) _ loop) hout
      (fun hbody => retains_deepBlock env hname body hbody path) s hs).1
  | .shared ⟨_, _, body, _⟩ _ _, _, hout, _, htool, hvar, herror, path, _ =>
    dispatchRetains_of_part hout hvar herror
      (retains_runShared htool hname (retains_deepBlock env hname body hout path) visited)
  | .bash _ _, _, hout, _, htool, hvar, herror, path, index
  | .agent _, _, hout, _, htool, hvar, herror, path, index
  | .prompt _, _, hout, _, htool, hvar, herror, path, index
  | .set _ _ _, _, hout, _, htool, hvar, herror, path, index
  | .log _ _, _, hout, _, htool, hvar, herror, path, index
  | .goto _, _, hout, _, htool, hvar, herror, path, index
  | .leave, _, hout, _, htool, hvar, herror, path, index
  | .next, _, hout, _, htool, hvar, herror, path, index
  | .adapter _ _, _, hout, _, htool, hvar, herror, path, index =>
    dispatchRetains_of_leaves hout hvar herror (leavesVar_act env visited htool rfl path index)

theorem retains_deepStop (env : Setting W) (hname : name ≠ inputsVar) :
    ∀ (step : Step Action) {around : List String}, name ∉ around → ∀ (scope : String)
      (index : Nat), Retains (LeftAs name v) ((deepStop env around step).visit scope index)
  | ⟨_, _, _, _, _, _, _, action⟩, _, hout, scope, index => by
    refine Keeps.bind (fun s hs => ⟨hs.noted .up _ _, fun _ _ => trivial⟩) fun _ => ?_
    exact seen_leftAs.visit (fun path index =>
      dispatchRetains_deepAct env hname _ action hout rfl rfl rfl path index) scope index

theorem retains_deepStops (env : Setting W) (hname : name ≠ inputsVar) :
    ∀ (steps : List (Step Action)) {around : List String}, name ∉ around →
      RelatedStops (.ofProperty fun α (m : Run (W × OwnHistory) α) => Retains (LeftAs name v) m)
        (deepStops env around steps) (deepStops env around steps)
  | [], _, _ => .nil
  | step :: rest, _, hout =>
    .cons ⟨rfl, retains_deepStop env hname step hout⟩ (retains_deepStops env hname rest hout)

/-- The steps of a list keep a variable, unless it is noted that one of them writes it. -/
theorem retains_deepBlock (env : Setting W) (hname : name ≠ inputsVar) :
    ∀ (steps : List (Step Action)) {around : List String}, name ∉ around → ∀ (scope : String),
      Retains (LeftAs name v) (deepBlock env around steps scope)
  | steps, _, hout, scope =>
    seen_leftAs.steers.visitFrom (retains_deepStops env hname steps hout) scope env.fuel 0

end

/-! ## Result -/

theorem resolve_of_no_dot {name : String} (h : '.' ∉ name.toList) (vars : Variables) :
    vars.resolve name = vars.find? name := by
  rw [Variables.resolve, Template.segments_of_no_dot h]
  cases hfind : vars.find? name with
  | some value => rfl
  | none =>
    show (vars.find? (String.ofList name.toList)).bind _ = none
    rw [String.ofList_toList, hfind]
    rfl

theorem not_readsInputs_of_no_dot {name : String} (h : '.' ∉ name.toList) (hname : name ≠ inputsVar)
    (vars : Variables) : ¬ vars.ReadsInputs name := by
  rintro (heq | ⟨-, hhead⟩)
  · exact hname heq
  · rw [Template.segments_of_no_dot h] at hhead
    exact hname (String.toList_injective (Option.some.inj hhead))

/-- What happens to the steps that a call visits, however deep, the last moment first. -/
def callHistory (env : Setting W) (callee : CompiledShared Action) (inputs : KeyMap Value)
    (path : String) (s : RunState W) : OwnHistory :=
  match callee.signature.bindInputs inputs s.progress.vars with
  | .ok bound =>
    (deepBlock env [] callee.body path
      ((calling path callee.signature inputs bound s).paired [])).2.world.2
  | .error _ => []

section Result

variable {env : Setting W} {step : Step Unit} {callee : CompiledShared Action}
  {inputs : KeyMap Value} {outputs : KeyMap String} {path internal output : String} {index : Nat}

/-- A call that ends well leaves a variable as it was in the caller, unless one of its steps writes
it. -/
theorem find?_block_of_unwritten {bound : KeyMap Value} {s t : RunState W}
    (hbound : callee.signature.bindInputs inputs s.progress.vars = .ok bound)
    (hbody : block env callee.body path (calling path callee.signature inputs bound s) = (.ok (), t))
    (hname : internal ≠ inputsVar)
    (hunwritten : ¬ Written internal (callHistory env callee inputs path s)) :
    t.progress.vars.find? internal = s.progress.vars.find? internal := by
  let begun := (calling path callee.signature inputs bound s).paired ([] : OwnHistory)
  have hbegun : LeftAs internal (s.progress.vars.find? internal) begun :=
    .inl (KeyMap.find?_insert_of_ne _ _ hname)
  have hkept := (retains_deepBlock env hname callee.body List.not_mem_nil path begun hbegun).1
  have hsame : block env callee.body path (begun.seen Prod.fst) = _ :=
    mirrors_deepBlock env [] callee.body path begun
  rw [show begun.seen Prod.fst = calling path callee.signature inputs bound s from rfl, hbody]
    at hsame
  have hvars : t.progress.vars = (deepBlock env [] callee.body path begun).2.progress.vars :=
    congrArg (fun p : Except Halt Unit × RunState W => p.2.progress.vars) hsame
  rw [callHistory, hbound] at hunwritten
  rw [hvars]
  exact hkept.resolve_right hunwritten

/-- An output that no step of a call writes is what the caller has in its variable. -/
theorem find?_exposed_of_unwritten {s u : RunState W} {v : Value}
    (h : act env step (.shared callee inputs outputs) path index s = (.ok v, u))
    (hout : callee.signature.outputs.find? output = some internal)
    (hplain : '.' ∉ internal.toList) (hname : internal ≠ inputsVar)
    (hunwritten : ¬ Written internal (callHistory env callee inputs path s)) :
    ∃ exposed, v = .ofMap exposed ∧
      exposed.find? output = some ((s.progress.vars.find? internal).getD .null) := by
  obtain ⟨bound, t, hbound, hbody, hcopied⟩ := ended_of_act_shared h
  cases hcopied
  refine ⟨_, rfl, ?_⟩
  rw [(returned_collectOutputs callee.signature outputs s.progress.vars t).own output internal hout
    (not_readsInputs_of_no_dot hplain hname _),
    resolve_of_no_dot hplain, find?_block_of_unwritten hbound hbody hname hunwritten]

/-- **Unwritten outputs are the caller's.**  An output of a call, of whose variable no step that the
call visits is a writer, is exposed in every caller with what the variable is there, null if it is
absent.  So two callers see the same exactly if they have the same there. -/
theorem act_shared_unwritten {s s' u u' : RunState W} {v v' : Value}
    (h : act env step (.shared callee inputs outputs) path index s = (.ok v, u))
    (h' : act env step (.shared callee inputs outputs) path index s' = (.ok v', u'))
    (hout : callee.signature.outputs.find? output = some internal)
    (hplain : '.' ∉ internal.toList) (hname : internal ≠ inputsVar)
    (hunwritten : ¬ Written internal (callHistory env callee inputs path s))
    (hunwritten' : ¬ Written internal (callHistory env callee inputs path s')) :
    ∃ exposed exposed', v = .ofMap exposed ∧ v' = .ofMap exposed' ∧
      exposed.find? output = some ((s.progress.vars.find? internal).getD .null) ∧
      exposed'.find? output = some ((s'.progress.vars.find? internal).getD .null) ∧
      (exposed.find? output = exposed'.find? output ↔
        (s.progress.vars.find? internal).getD .null =
          (s'.progress.vars.find? internal).getD .null) := by
  obtain ⟨exposed, hv, hfirst⟩ := find?_exposed_of_unwritten h hout hplain hname hunwritten
  obtain ⟨exposed', hv', hsecond⟩ := find?_exposed_of_unwritten h' hout hplain hname hunwritten'
  refine ⟨exposed, exposed', hv, hv', hfirst, hsecond, ?_⟩
  rw [hfirst, hsecond, Option.some_inj]

end Result

/-- A shared step that finds something if it is told to look for it. -/
def finding : CompiledShared Action where
  key := "project:finding"
  signature := ⟨"finding", [], .ofList [("result", "found")]⟩
  body := [⟨"find", some "\x7binputs.look\x7d == yes", .stop, none, none, none, none,
    .set "found" (.string "here") false⟩]
  height := 1

/-- A call of it, from a run without any tools. -/
def find (look : String) (s : RunState Unit) : Except Halt Value × RunState Unit :=
  act (bareSetting 10) asking (.shared finding (.ofList [("look", .string look)]) .empty) "find" 0 s

/-- The state in which a call that looks leaves a run without variables. -/
def afterFinding : RunState Unit := (find "yes" beforeAsking).2

/-- What happens in a call that does not look. -/
def findHistory (s : RunState Unit) : OwnHistory :=
  callHistory (bareSetting 10) finding (.ofList [("look", .string "no")]) "find" s

theorem not_written_findHistory : ¬ Written "found" (findHistory beforeAsking) ∧
    ¬ Written "found" (findHistory afterFinding) :=
  ⟨not_written (by decide +kernel), not_written (by decide +kernel)⟩

theorem find_beforeAsking : (find "no" beforeAsking).1 = .ok (.ofFields [("result", .null)]) := by
  decide +kernel

theorem find_afterFinding :
    (find "no" afterFinding).1 = .ok (.ofFields [("result", .string "here")]) := by
  decide +kernel

theorem act_shared_unwritten_find : ∃ v v' exposed exposed',
    (find "no" beforeAsking).1 = .ok v ∧ (find "no" afterFinding).1 = .ok v' ∧
      v = .ofMap exposed ∧ v' = .ofMap exposed' ∧
      exposed.find? "result" =
        some ((beforeAsking.progress.vars.find? "found").getD .null) ∧
      exposed'.find? "result" =
        some ((afterFinding.progress.vars.find? "found").getD .null) := by
  have hout : finding.signature.outputs.find? "result" = some "found" := by decide
  obtain ⟨exposed, exposed', hv, hv', hfirst, hsecond, -⟩ :=
    act_shared_unwritten (Prod.ext find_beforeAsking rfl : find "no" beforeAsking = (_, _))
      (Prod.ext find_afterFinding rfl : find "no" afterFinding = (_, _)) hout (by decide)
      (by decide) not_written_findHistory.1 not_written_findHistory.2
  exact ⟨_, _, exposed, exposed', find_beforeAsking, find_afterFinding, hv, hv', hfirst, hsecond⟩

/-- The same call, with the same inputs and without a step that writes the output, exposes null in a
run without variables, and what an earlier call found in the state that this one left. -/
theorem find_remembers :
    let inputs : KeyMap Value := .ofList [("look", .string "no")]
    finding.signature.bindInputs inputs beforeAsking.progress.vars = .ok inputs ∧
      finding.signature.bindInputs inputs afterFinding.progress.vars = .ok inputs ∧
      ¬ Written "found" (findHistory beforeAsking) ∧ ¬ Written "found" (findHistory afterFinding) ∧
      (find "no" beforeAsking).1 = .ok (.ofFields [("result", .null)]) ∧
      (find "no" afterFinding).1 = .ok (.ofFields [("result", .string "here")]) :=
  ⟨by decide +kernel, by decide +kernel, not_written_findHistory.1, not_written_findHistory.2,
    find_beforeAsking, find_afterFinding⟩

end Run

end Runbook
