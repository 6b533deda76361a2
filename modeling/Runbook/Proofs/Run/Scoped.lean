import Runbook.Proofs.Run.Bindings

/-!
# Inputs are scoped

The variable for the inputs of a shared step belongs to the call: the steps of the call find the
object that was bound for it, whatever calls they make themselves, and the caller gets its own value
back.

* `Scoped` says that the variable for the inputs has the value of the call until own steps of the
  list overwrite it;
* `LeavesInputs` says what a step without own steps inside does to the inputs: a call in the list
  puts them back, as `leavesInputs_runShared` says;
* `keepsScope_loop` and `keepsScope_ownBlock` say that loops and lists of own steps keep them in
  scope;
* `Run.inputs_scoped` says what a call does, from binding its inputs to copying its outputs.
-/

namespace Runbook

open Portion

/-- At every moment the variable for the inputs has this value, unless an own loop around the step
binds it or own steps have overwritten it. -/
def Scoped (inputs : Value) (history : OwnHistory) : Prop :=
  ∀ moment before, (moment :: before) <:+ history →
    moment.vars.find? Run.inputsVar = some inputs ∨ Run.inputsVar ∈ moment.around ∨
      Overwritten Run.inputsVar (moment :: before)

theorem scoped_nil (inputs : Value) : Scoped inputs [] := fun _ _ h =>
  absurd (List.suffix_nil.1 h) (List.cons_ne_nil _ _)

theorem Scoped.cons {inputs : Value} {history : OwnHistory} {moment : OwnMoment}
    (h : Scoped inputs history)
    (hm : moment.vars.find? Run.inputsVar = some inputs ∨ Run.inputsVar ∈ moment.around ∨
      Overwritten Run.inputsVar (moment :: history)) : Scoped inputs (moment :: history) := by
  intro later before hsuffix
  rcases List.suffix_cons_iff.1 hsuffix with heq | hbefore
  · cases heq
    exact hm
  · exact h later before hbefore

namespace Run

variable {W α : Type}

/-! ## What is seen of the inputs -/

/-- The variable for the inputs has this value, or own steps have overwritten it, and it was so at
every moment. -/
def InScope (inputs : Value) (s : RunState (W × OwnHistory)) : Prop :=
  Scoped inputs s.world.2 ∧
    (s.progress.vars.find? inputsVar = some inputs ∨ Overwritten inputsVar s.world.2)

/-- A part after which the inputs are in scope if they were before. -/
abbrev KeepsScope (inputs : Value) (part : Run (W × OwnHistory) α) : Prop :=
  Keeps (InScope inputs) (fun _ => True) part

/-- What is seen of the inputs: their value, and the account of the own steps. -/
def inputsView (s : RunState (W × OwnHistory)) : Option Value × OwnHistory :=
  (s.progress.vars.find? inputsVar, s.world.2)

theorem inputsView_eq_iff {s t : RunState (W × OwnHistory)} :
    inputsView t = inputsView s ↔
      t.progress.vars.find? inputsVar = s.progress.vars.find? inputsVar ∧
        t.world.2 = s.world.2 := by
  rw [inputsView, inputsView, Prod.mk.injEq]

variable {inputs : Value}

theorem InScope.of_view {s t : RunState (W × OwnHistory)} (h : inputsView t = inputsView s)
    (hs : InScope inputs s) : InScope inputs t := by
  rw [inputsView_eq_iff] at h
  rwa [InScope, h.1, h.2]

theorem seen_inScope : SeenIn inputsVar (InScope inputs : RunState (W × OwnHistory) → Prop) :=
  fun _ _ h hs => hs.of_view h

/-! ## Dispatched steps -/

theorem InScope.noted {s : RunState (W × OwnHistory)} (h : InScope inputs s) (phase : Phase)
    (step : Step Action) (around : List String) :
    InScope inputs (ownNoted phase step around s) :=
  ⟨h.1.cons (h.2.imp id fun hover => .inr (.later hover)), h.2.imp id .later⟩

/-- When it is noted that own steps have overwritten the inputs, they need not be as they were. -/
theorem inScope_of_overwritten {s : RunState (W × OwnHistory)} {phase : Phase} {step : Step Action}
    {around : List String} (h : Scoped inputs s.world.2)
    (ho : Overwritten inputsVar (ownNoted phase step around s).world.2) :
    InScope inputs (ownNoted phase step around s) :=
  ⟨h.cons (.inr (.inr ho)), .inr ho⟩

/-- A dispatched step that keeps the inputs in scope, and overwrites them if it succeeds and binds
them to its output. -/
def DispatchesInScope (inputs : Value) (step : Step Action)
    (part : Run (W × OwnHistory) Value) : Prop :=
  ∀ s, InScope inputs s → Ends part s fun r t => InScope inputs t ∧
    ((∃ v, r = .ok v) → step.outputVar = some inputsVar → Overwritten inputsVar t.world.2)

section Dispatch

variable {step : Step Action} {around : List String} {part : Run (W × OwnHistory) Value}

theorem dispatchesInScope (hout : inputsVar ∉ around)
    (h : ∀ s, InScope inputs s → Ends part (ownNoted .dispatched step around s) fun r t =>
      match r with
      | .ok v => InScope inputs (ownNoted (.ended (.ok v)) step around t)
      | .error (.failed failure) =>
        InScope inputs (ownNoted (.ended (.error failure)) step around t)
      | .error .outOfFuel | .error .panicked => InScope inputs t) :
    DispatchesInScope inputs step (dispatchOwn step around part) := by
  intro s hs
  have hpart := h s hs
  rw [Ends] at hpart
  rw [Ends, dispatchOwn_apply]
  rcases hp : part (ownNoted .dispatched step around s) with ⟨(failure | _ | _) | v, t⟩ <;>
    rw [hp] at hpart
  · refine ⟨hpart, ?_⟩
    rintro ⟨_, hok⟩
    cases hok
  · refine ⟨hpart, ?_⟩
    rintro ⟨_, hok⟩
    cases hok
  · refine ⟨hpart, ?_⟩
    rintro ⟨_, hok⟩
    cases hok
  · refine ⟨hpart, fun _ hvar => .written ?_ hout⟩
    rw [Step.writtenVars, hvar]
    exact List.mem_append_left _ List.mem_cons_self

/-- The output of a step may go over the inputs, if it is noted that it does. -/
theorem DispatchesInScope.retains (h : DispatchesInScope inputs step part) {visited : Step Unit}
    (hvar : visited.outputVar = step.outputVar) :
    DispatchRetains inputsVar (InScope inputs) visited part := by
  refine fun s hs => (h s hs).mono fun r t ⟨ht, hwritten⟩ => ⟨ht, ?_⟩
  match r with
  | .ok v =>
    intro hout u hu
    rw [InScope, hu]
    exact ⟨ht.1, .inr (hwritten ⟨v, rfl⟩ (hvar ▸ hout))⟩
  | .error (.failed failure) =>
    intro _ _ hname
    exact absurd hname (by decide)
  | .error .outOfFuel | .error .panicked => trivial

theorem dispatchesInScope_of_keeps (hout : inputsVar ∉ around) (h : KeepsScope inputs part) :
    DispatchesInScope inputs step (dispatchOwn step around part) := by
  refine dispatchesInScope hout fun s hs =>
    (h _ (hs.noted .dispatched step around)).mono fun r t ⟨ht, _⟩ => ?_
  match r with
  | .ok v => exact ht.noted _ _ _
  | .error (.failed failure) => exact ht.noted _ _ _
  | .error .outOfFuel | .error .panicked => exact ht

/-- A part without own steps: it leaves the inputs alone, or it succeeds and its step is one that
binds them, or its step calls an adapter. -/
def LeavesInputs (step : Step Action) (part : Run (W × OwnHistory) Value) : Prop :=
  ∀ s, Ends part s fun r t => t.world.2 = s.world.2 ∧
    (t.progress.vars.find? inputsVar = s.progress.vars.find? inputsVar ∨
      ((∃ v, r = .ok v) ∧ inputsVar ∈ step.writtenVars) ∨
      ((∃ name params, step.tool = .adapter name params) ∧
        r ≠ .error .outOfFuel ∧ r ≠ .error .panicked))

theorem dispatchesInScope_of_leaves (hout : inputsVar ∉ around) (h : LeavesInputs step part) :
    DispatchesInScope inputs step (dispatchOwn step around part) := by
  refine dispatchesInScope hout fun s hs => (h _).mono fun r t ⟨hworld, hvars⟩ => ?_
  have hbegin : InScope inputs (ownNoted .dispatched step around s) := hs.noted _ _ _
  have hscoped : Scoped inputs t.world.2 := by
    rw [hworld]
    exact hbegin.1
  by_cases hsame : t.progress.vars.find? inputsVar = s.progress.vars.find? inputsVar
  · have hview : inputsView t = inputsView (ownNoted .dispatched step around s) :=
      inputsView_eq_iff.2 ⟨hsame, hworld⟩
    have ht : InScope inputs t := hbegin.of_view hview
    match r with
    | .ok v => exact ht.noted _ _ _
    | .error (.failed failure) => exact ht.noted _ _ _
    | .error .outOfFuel | .error .panicked => exact ht
  · rcases hvars with hleft | ⟨⟨v, rfl⟩, hwritten⟩ | ⟨⟨name, params, htool⟩, hfuel, hpanic⟩
    · exact absurd hleft hsame
    · exact inScope_of_overwritten hscoped (.written hwritten hout)
    · -- the moment before is the one in which the adapter was dispatched
      have hchanged (result : Except Failure Value) :
          Overwritten inputsVar (ownNoted (.ended result) step around t).world.2 := by
        show Overwritten inputsVar (_ :: t.world.2)
        rw [hworld]
        exact .changed htool hout hsame
      match r with
      | .ok v => exact inScope_of_overwritten hscoped (hchanged _)
      | .error (.failed failure) => exact inScope_of_overwritten hscoped (hchanged _)
      | .error .outOfFuel => exact absurd rfl hfuel
      | .error .panicked => exact absurd rfl hpanic

end Dispatch

/-! ## Steps without own steps inside -/

section Leaves

variable {own : Step Action}

theorem leavesInputs_act (env : Setting W) (step : Step Unit) {action : Action}
    (htool : own.tool = action) (hplain : action.isPlain = true) (path : String) (index : Nat) :
    LeavesInputs own (act (env.paired OwnHistory) step action path index) :=
  leavesVar_act env step htool hplain path index

/-- What a call leaves of the inputs of its caller, unless it copies an output over them. -/
theorem leavesInputs_runShared {callee : CompiledShared Action} {inputs : KeyMap Value}
    {outputs : KeyMap String} (htool : own.tool = .shared callee inputs outputs) (env : Setting W)
    (step : Step Unit) (path : String) (index : Nat) :
    LeavesInputs own
      (act (env.paired OwnHistory) step (.shared callee inputs outputs) path index) := by
  intro s
  refine ⟨act_world_snd env step _ path index s, ?_⟩
  obtain ⟨key, sig, body, height⟩ := callee
  rw [act]
  cases hbound : sig.bindInputs inputs s.progress.vars with
  | error failure =>
    rw [runShared_error hbound]
    exact .inl rfl
  | ok bound =>
    rw [runShared_ok hbound]
    generalize visitFrom _ path _ 0 (calling path sig inputs bound s) = ended
    obtain ⟨_ | _, t⟩ := ended
    · exact .inl (find?_putBack _ _)
    · by_cases hcopied : inputsVar ∈ own.writtenVars
      · exact .inr (.inl ⟨⟨_, rfl⟩, hcopied⟩)
      · refine .inl ((KeyMap.find?_insertAll_of_notMem ?_ _).trans (find?_putBack _ _))
        rw [outputBindings_names, keys_collectOutputs]
        rw [Step.writtenVars, htool, List.mem_append, not_or] at hcopied
        exact hcopied.2

end Leaves

/-! ## Loops -/

/-- A loop with a variable of the name of the inputs puts them back at its end. -/
theorem keepsScope_of_putsBack {names : List String} (hin : inputsVar ∈ names)
    {loop : Run (W × OwnHistory) Value} (hput : PutsBack names loop)
    (hscoped : KeepsAccount (Scoped inputs) loop)
    (hover : KeepsAccount (Overwritten inputsVar) loop) : KeepsScope inputs loop := by
  intro s hs
  refine ⟨⟨(hscoped s hs.1).1, ?_⟩, fun _ _ => trivial⟩
  rw [(hput s).2.2 inputsVar hin]
  exact hs.2.imp id fun h => (hover s h).1

section Loop

variable {env : Setting W} {around names : List String} {body : Block} {path : String}
  {loop : Run (W × OwnHistory) Value}

/-- A loop outside of which the inputs are not shadowed keeps them in scope, if its passes do that
do not shadow them either. -/
theorem keepsScope_loop (hbuilt : ∀ {R : PartRelation (W × OwnHistory) (W × OwnHistory)},
      Steers R → BindsLoops R names → R Unit (ownBlock env (names ++ around) body path)
        (ownBlock env (names ++ around) body path) → R Value loop loop)
    (hput : PutsBack names loop) (hout : inputsVar ∉ around)
    (hbody : inputsVar ∉ names ++ around →
      KeepsScope inputs (ownBlock env (names ++ around) body path)) : KeepsScope inputs loop := by
  refine seen_inScope.loop hbuilt (keepsLoops_ownBlock env _ body path) (fun hin => ?_)
    fun hin => hbody fun h => (List.mem_append.1 h).elim hin hout
  have haccount {p : OwnHistory → Prop} (hp : ∀ (moment : OwnMoment) before,
      inputsVar ∈ moment.around → p before → p (moment :: before)) : KeepsAccount p loop := by
    have hrelated := relatesOwn_keepsAccount env
      (fun names _ h => List.mem_append_right names h) hp
    exact hbuilt hrelated.steers (hrelated.composesLoops.binds names)
      (related_ownBlock hrelated body (List.mem_append_left around hin) path)
  exact keepsScope_of_putsBack hin hput
    (haccount fun _ _ hshadowed h => h.cons (.inr (.inl hshadowed)))
    (haccount fun _ _ _ h => .later h)

end Loop

/-! ## Own steps -/

mutual

/-- An own step keeps the inputs in scope when it is dispatched. -/
theorem dispatchesInScope_ownAct (env : Setting W) (step : Step Unit) : ∀ (action : Action)
    {around : List String}, inputsVar ∉ around → ∀ {own : Step Action}, own.tool = action →
      ∀ (path : String) (index : Nat), DispatchesInScope inputs own
        (dispatchOwn own around (ownAct env around step action path index))
  | .foreach loop body, _, hout, _, _, path, _ =>
    dispatchesInScope_of_keeps hout (keepsScope_loop
      (fun hs hb hp => hb.foreachLoop (fun _ => hs.throw _) (hs.signalled hs.takeSignal hp) _)
      (putsBack_foreachLoop (keepsLoops_ownBlock env _ body path) _ loop) hout
      fun hbody => keepsScope_ownBlock env body hbody path)
  | .whilst loop body, _, hout, _, _, path, _ =>
    dispatchesInScope_of_keeps hout (keepsScope_loop
      (fun hs hb hp => hb.whileLoop (hs.signalled hs.takeSignal hp) _)
      (putsBack_whileLoop (keepsLoops_ownBlock env _ body path) _ loop) hout
      fun hbody => keepsScope_ownBlock env body hbody path)
  | .range loop body, _, hout, _, _, path, _ =>
    dispatchesInScope_of_keeps hout (keepsScope_loop
      (fun hs hb hp => hb.rangeLoop (hs.signalled hs.takeSignal hp) _)
      (putsBack_rangeLoop (keepsLoops_ownBlock env _ body path) _ loop) hout
      fun hbody => keepsScope_ownBlock env body hbody path)
  | .retry loop body, _, hout, _, _, path, _ =>
    dispatchesInScope_of_keeps hout (keepsScope_loop
      (fun hs hb hp => hb.retryLoop fun number =>
        hs.signalled hs.takeSignal (hs.tryPass hp _ loop number))
      (putsBack_retryLoop (keepsLoops_ownBlock env _ body path) _ loop) hout
      fun hbody => keepsScope_ownBlock env body hbody path)
  | .shared _ _ _, _, hout, _, htool, path, index =>
    dispatchesInScope_of_leaves hout (leavesInputs_runShared htool env step path index)
  | .bash _ _, _, hout, _, htool, path, index | .agent _, _, hout, _, htool, path, index
  | .prompt _, _, hout, _, htool, path, index | .set _ _ _, _, hout, _, htool, path, index
  | .log _ _, _, hout, _, htool, path, index | .goto _, _, hout, _, htool, path, index
  | .leave, _, hout, _, htool, path, index | .next, _, hout, _, htool, path, index
  | .adapter _ _, _, hout, _, htool, path, index =>
    dispatchesInScope_of_leaves hout (leavesInputs_act env step htool rfl path index)

theorem keepsScope_ownStop (env : Setting W) :
    ∀ (step : Step Action) {around : List String}, inputsVar ∉ around → ∀ (scope : String)
      (index : Nat), KeepsScope inputs ((ownStop env around step).visit scope index)
  | ⟨_, _, _, _, _, _, _, action⟩, _, hout, scope, index => by
    refine Keeps.bind (fun s hs => ⟨hs.noted .up _ _, fun _ _ => trivial⟩) fun _ => ?_
    exact seen_inScope.visit (fun path index =>
      (dispatchesInScope_ownAct env _ action hout rfl path index).retains rfl) scope index

theorem keepsScope_ownStops (env : Setting W) :
    ∀ (steps : List (Step Action)) {around : List String}, inputsVar ∉ around →
      RelatedStops (.ofProperty fun α (m : Run (W × OwnHistory) α) => KeepsScope inputs m)
        (ownStops env around steps) (ownStops env around steps)
  | [], _, _ => .nil
  | step :: rest, _, hout =>
    .cons ⟨rfl, keepsScope_ownStop env step hout⟩ (keepsScope_ownStops env rest hout)

/-- The own steps of a list keep the inputs in scope. -/
theorem keepsScope_ownBlock (env : Setting W) :
    ∀ (steps : List (Step Action)) {around : List String}, inputsVar ∉ around →
      ∀ (scope : String), KeepsScope inputs (ownBlock env around steps scope)
  | steps, _, hout, scope =>
    seen_inScope.steers.visitFrom (keepsScope_ownStops env steps hout) scope env.fuel 0

end

/-! ## Result -/

/-- **Inputs are scoped.**  If the inputs of a call cannot be bound, the call fails and does nothing
else: no step gets its turn, and no variable changes.  If they can, the steps of the call begin with
them; whenever the turn of one comes, when it is dispatched and when it has ended, a call of its own
among them, and when all are done, the inputs are those of the call, unless the steps themselves
have overwritten them.  Whatever their end is, the variable then has the value that it had before
the call, or is absent if it was absent, and all others stay; only then are outputs copied. -/
theorem inputs_scoped (env : Setting W) (step : Step Unit) (callee : CompiledShared Action)
    (inputs : KeyMap Value) (outputs : KeyMap String) (path : String) (index : Nat)
    (s : RunState W) :
    match callee.signature.bindInputs inputs s.progress.vars with
    | .error failure =>
      ∀ mark, markedAct env mark step (.shared callee inputs outputs) path index s =
        (.error (.failed (.stepFailed step.name failure.text)), s)
    | .ok bound =>
      let begun := calling path callee.signature inputs bound s
      let (ended, t) := block env callee.body path begun
      let (ended', t') := ownBlock env [] callee.body path (begun.paired [])
      let back := putBack s.progress.vars t
      (ended', t'.seen Prod.fst) = (ended, t) ∧
        begun.progress.vars = s.progress.vars.insert inputsVar (.ofMap bound) ∧
        Scoped (.ofMap bound) t'.world.2 ∧
        (t.progress.vars.find? inputsVar = some (.ofMap bound) ∨
          Overwritten inputsVar t'.world.2) ∧
        back.progress.vars.find? inputsVar = s.progress.vars.find? inputsVar ∧
        (∀ name ≠ inputsVar, back.progress.vars.find? name = t.progress.vars.find? name) ∧
        act env step (.shared callee inputs outputs) path index s =
          copyOutputs callee.signature outputs ended back := by
  obtain ⟨key, sig, body, height⟩ := callee
  cases hbound : sig.bindInputs inputs s.progress.vars with
  | error failure =>
    intro mark
    rw [markedAct, runShared_error hbound]
  | ok bound =>
    let begun := calling path sig inputs bound s
    have hbegun : begun.progress.vars.find? inputsVar = some (.ofMap bound) :=
      KeyMap.find?_insert_self _ _ _
    have hscope : InScope (.ofMap bound) (begun.paired ([] : OwnHistory)) :=
      ⟨scoped_nil _, .inl hbegun⟩
    have hkept := (keepsScope_ownBlock env body List.not_mem_nil path _ hscope).1
    have hsame : block env body path begun = _ :=
      mirrors_ownBlock env [] body path (begun.paired [])
    have hcall : act env step (.shared ⟨key, sig, body, height⟩ inputs outputs) path index s =
        copyOutputs sig outputs (block env body path begun).1
          (putBack s.progress.vars (block env body path begun).2) := by
      rw [act, runShared_ok hbound]
      rfl
    rcases hrun : block env body path begun with ⟨ended, t⟩
    rcases hown : ownBlock env [] body path (begun.paired []) with ⟨ended', t'⟩
    rw [hrun, hown] at hsame
    rw [hrun] at hcall
    rw [hown] at hkept
    have hvars : t.progress.vars = t'.progress.vars :=
      congrArg (fun p : Except Halt Unit × RunState W => p.2.progress.vars) hsame
    dsimp only
    rw [hrun, hown]
    exact ⟨hsame.symm, rfl, hkept.1, hvars ▸ hkept.2, find?_putBack _ _,
      fun _ hname => find?_putBack_of_ne _ _ hname, hcall⟩

end Run

end Runbook
