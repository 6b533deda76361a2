import Runbook.Proofs.Run.Leaf

/-!
# Loops and calls put back what they found

A loop opens a frame, binds its variables pass by pass, and closes the frame whatever its end is.

* `pinned` is what a loop never changes of the active loops: all but the pass that its own frame is
  at;
* `KeepsLoops` are the parts of a run that leave the active loops as they found them, and
  `keepsLoops_act` says that every step is one;
* `find?_restore` says what closing a frame does to the variables of the loop, and
  `find?_restore_of_notMem` that it does nothing to others;
* `runShared_error` is a call whose inputs cannot be bound: it fails and does nothing else;
* `runShared_ok` is any other: its steps run with the inputs bound, the inputs of the caller are put
  back whatever the end of the steps is, and then the outputs are copied;
* `find?_putBack` and `find?_putBack_of_ne` say what putting back does to variables.
-/

namespace Runbook

open Portion

/-- The variables that a loop binds. -/
def Action.loopVars : Action → List String
  | .foreach loop _ => [loop.itemVar, loop.indexVar]
  | .whilst loop _ => [loop.counterVar]
  | .range loop _ => [loop.var]
  | .retry loop _ => [loop.attemptVar]
  | .bash _ _ | .agent _ | .prompt _ | .set _ _ _ | .log _ _ | .goto _ | .leave | .next
  | .shared _ _ _ | .adapter _ _ => []

/-- A name that a frame keeps gets its old value back, also when the frame keeps it twice. -/
theorem Progress.find?_restore {before : Variables} {names : List String} {name : String}
    (h : name ∈ names) (vars : Variables) :
    (restore (names.map fun n => ⟨n, before.find? n⟩) vars).find? name = before.find? name := by
  induction names with
  | nil => exact absurd h List.not_mem_nil
  | cons first rest ih =>
    show (restoreOne ⟨first, before.find? first⟩ (restore _ vars)).find? name = _
    unfold restoreOne
    by_cases hn : name = first
    · subst hn
      cases hb : before.find? name with
      | none => exact KeyMap.find?_erase_self _ _
      | some v => exact KeyMap.find?_insert_self _ _ _
    · have hrest := ih (List.mem_of_ne_of_mem hn h)
      cases hb : before.find? first with
      | none => exact (KeyMap.find?_erase_of_ne _ hn).trans hrest
      | some v => exact (KeyMap.find?_insert_of_ne _ v hn).trans hrest

/-- A name that a frame does not keep is left alone. -/
theorem Progress.find?_restore_of_notMem {before : Variables} {names : List String} {name : String}
    (h : name ∉ names) (vars : Variables) :
    (restore (names.map fun n => ⟨n, before.find? n⟩) vars).find? name = vars.find? name := by
  induction names with
  | nil => rfl
  | cons first rest ih =>
    rw [List.mem_cons, not_or] at h
    show (restoreOne ⟨first, before.find? first⟩ (restore _ vars)).find? name = _
    unfold restoreOne
    cases before.find? first with
    | none => exact (KeyMap.find?_erase_of_ne _ h.1).trans (ih h.2)
    | some v => exact (KeyMap.find?_insert_of_ne _ v h.1).trans (ih h.2)

namespace Run

variable {W α : Type}

/-- A part that leaves the active loops as it found them. -/
abbrev KeepsLoops (part : Run W α) : Prop :=
  Steady (fun s : RunState W => s.progress.loops) (fun _ => True) part

/-- Active loops without the pass that the innermost one is at. -/
def pinFirst : List Frame → List Frame
  | [] => []
  | frame :: outer => { frame with cursor := 0, total := none } :: outer

/-- The active loops of a state without the pass that the innermost one is at. -/
def pinned (s : RunState W) : List Frame := pinFirst s.progress.loops

/-- A part that does no more to the active loops than note passes of the innermost one. -/
abbrev KeepsPinned (part : Run W α) : Prop := Steady (pinned (W := W)) (fun _ => True) part

theorem keeps_unit (env : Setting W) : env.tools.Keeps (fun _ => ()) where
  shell _ _ _ _ := rfl
  program _ _ _ _ _ := rfl
  session _ _ _ := rfl
  publish _ _ := rfl
  adapter _ _ _ _ := rfl

theorem KeepsLoops.pinned {part : Run W α} (h : KeepsLoops part) : KeepsPinned part :=
  h.comp pinFirst

end Run

/-- What leaves alone all that a run goes by leaves the loops alone. -/
theorem Portion.Steady.keepsLoops {W α : Type} {part : Run W α}
    (h : Run.Quiet (fun _ : W => ()) part) : Run.KeepsLoops part :=
  (h.comp Run.Control.loops).weaken fun _ _ => trivial

theorem Portion.Steady.keepsPinned {W α : Type} {part : Run W α}
    (h : Run.Quiet (fun _ : W => ()) part) : Run.KeepsPinned part :=
  (Steady.keepsLoops h).pinned

namespace Run

variable {W α : Type}

theorem keepsLoops_update {f : Progress → Progress} (h : ∀ p, (f p).loops = p.loops) :
    KeepsLoops (update f : Run W Unit) :=
  steady_modify fun s => h s.progress

theorem keepsPinned_onFrame (f : Frame → Frame)
    (h : ∀ frame, { f frame with cursor := 0, total := none } =
      ({ frame with cursor := 0, total := none } : Frame)) :
    KeepsPinned (update (Progress.onFrame f) : Run W Unit) := by
  refine steady_modify fun s => ?_
  show pinFirst (Progress.onFrame f s.progress).loops = pinFirst s.progress.loops
  unfold Progress.onFrame
  split
  · rfl
  · next frame outer hl => simp only [hl, pinFirst, h frame]

theorem keepsPinned_setCursor (cursor : Nat) :
    KeepsPinned (update (Progress.setCursor · cursor) : Run W Unit) :=
  keepsPinned_onFrame _ fun _ => rfl

theorem keepsPinned_setTotal (total : Nat) :
    KeepsPinned (update (Progress.setTotal · total) : Run W Unit) :=
  keepsPinned_onFrame _ fun _ => rfl

theorem keepsLoops_takeSignal : KeepsLoops (takeSignal : Run W Signal) :=
  fun _ => ⟨rfl, fun _ _ => trivial⟩

/-- What a part leaves alone it leaves alone when its failure is a result. -/
theorem steady_attempt {γ : Type} {v : RunState W → γ} {part : Run W α}
    (h : Steady v (fun _ => True) part) : Steady v (fun _ => True) (attempt part) := by
  intro s
  refine Ends.mono (ends_attempt (h s)) fun r t ht => ⟨?_, fun _ _ => trivial⟩
  match r, ht with
  | .ok (.ok _), ht | .ok (.error _), ht | .error _, ht => exact ht.1

theorem keepsLoops_closing {part : Run W α} {close : Progress → Progress} (h : KeepsLoops part)
    (hc : ∀ p, (close p).loops = p.loops) : KeepsLoops (closing part close) :=
  fun s => ⟨(hc _).trans (h.view s), fun _ _ => trivial⟩

/-! ## Frames -/

/-- A state with a new frame. -/
def entered (site : LoopSite) (kind : LoopKind) (names : List String) (s : RunState W) :
    RunState W :=
  { s with progress := s.progress.enterLoop kind site.step site.index names }

theorem closing_apply (part : Run W α) (close : Progress → Progress) (s : RunState W) :
    closing part close s =
      ((part s).1, { (part s).2 with progress := close (part s).2.progress }) := rfl

theorem inFrame_apply (site : LoopSite) (kind : LoopKind) (names : List String) (loop : Run W α)
    (s : RunState W) :
    inFrame site kind names loop s =
      closing loop Progress.exitLoop (entered site kind names s) := rfl

/-- A part that leaves no frame of its own, whatever its end is: the loops around are as before,
nothing is asked of them, and the variables of these names have their old values. -/
def PutsBack (names : List String) (part : Run W α) : Prop :=
  ∀ s, Ends part s (fun _ t =>
    t.progress.loops = s.progress.loops ∧ t.progress.signal = .quiet ∧
      ∀ name ∈ names, t.progress.vars.find? name = s.progress.vars.find? name)

/-- When the passes are over, the frame is still there, with the values that it keeps. -/
theorem exitLoop_of_keepsPinned {loop : Run W α} (h : KeepsPinned loop) (site : LoopSite)
    (kind : LoopKind) (names : List String) (s : RunState W) :
    let t := (loop (entered site kind names s)).2
    t.progress.exitLoop = { t.progress with
      loops := s.progress.loops
      vars := Progress.restore (names.map fun n => ⟨n, s.progress.vars.find? n⟩) t.progress.vars
      signal := .quiet } := by
  have hp := h.view (entered site kind names s)
  obtain ⟨t, ht⟩ : ∃ t, t = (loop (entered site kind names s)).2 := ⟨_, rfl⟩
  rw [← ht] at hp ⊢
  cases hl : t.progress.loops with
  | nil => simp [pinned, hl, pinFirst, entered, Progress.enterLoop] at hp
  | cons frame outer =>
    simp only [pinned, hl, pinFirst, entered, Progress.enterLoop, List.cons.injEq,
      Frame.mk.injEq] at hp
    obtain ⟨⟨-, -, -, -, -, hsaved⟩, houter⟩ := hp
    simp only [Progress.exitLoop, hl, hsaved, houter]

theorem putsBack_inFrame {loop : Run W α} (h : KeepsPinned loop) (site : LoopSite)
    (kind : LoopKind) (names : List String) : PutsBack names (inFrame site kind names loop) := by
  intro s
  rw [Ends, inFrame_apply, closing_apply, exitLoop_of_keepsPinned h]
  exact ⟨rfl, rfl, fun name hn => Progress.find?_restore hn _⟩

theorem PutsBack.keepsLoops {names : List String} {part : Run W α} (h : PutsBack names part) :
    KeepsLoops part :=
  fun s => ⟨(h s).1, fun _ _ => trivial⟩

/-! ## Passes -/

theorem keepsPinned_foreachPasses {pass : Run W Unit} (h : KeepsLoops pass) (site : LoopSite)
    (loop : ForeachLoop) (items : List Value) :
    ∀ index, KeepsPinned (foreachPasses site loop pass index items) := by
  induction items with
  | nil => intro index; exact steady_pure _
  | cons item rest ih =>
    intro index
    refine (steady_bindItem _ _ _).keepsPinned.bind fun _ => (keepsPinned_setCursor _).bind fun _ =>
      h.pinned.bind fun _ => keepsLoops_takeSignal.pinned.bind fun signal =>
        Steady.ite (steady_pure _) ?_
    refine (steady_holdsIf _).keepsPinned.bind fun stop => Steady.ite ?_ (ih _)
    exact (steady_emit _).keepsPinned.bind fun _ => steady_pure _

theorem keepsPinned_whilePasses {pass : Run W Unit} (h : KeepsLoops pass) (loop : WhileLoop)
    (left : Nat) : ∀ done, KeepsPinned (whilePasses loop pass left done) := by
  induction left with
  | zero =>
    intro done
    rw [whilePasses]
    refine (steady_holds _).keepsPinned.bind fun holds => ?_
    exact Steady.ite (steady_pure _) (steady_pure _)
  | succ left ih =>
    intro done
    rw [whilePasses]
    refine (steady_holds _).keepsPinned.bind fun holds =>
      Steady.ite (steady_pure _) ?_
    refine (keepsPinned_setCursor _).bind fun _ =>
      (steady_bindVar _ _).keepsPinned.bind fun _ => h.pinned.bind fun _ =>
        keepsLoops_takeSignal.pinned.bind fun signal => Steady.ite (steady_pure _) (ih _)

theorem keepsPinned_rangePasses {pass : Run W Unit} (h : KeepsLoops pass) (loop : RangeLoop)
    (first : Int) (left : Nat) : ∀ done, KeepsPinned (rangePasses loop first pass left done) := by
  induction left with
  | zero => intro done; exact steady_pure _
  | succ left ih =>
    intro done
    refine (steady_bindVar _ _).keepsPinned.bind fun _ =>
      (keepsPinned_setCursor _).bind fun _ => h.pinned.bind fun _ =>
        keepsLoops_takeSignal.pinned.bind fun signal => Steady.ite (steady_pure _) (ih _)

theorem keepsLoops_tryPass {pass : Run W Unit} (h : KeepsLoops pass) (site : LoopSite)
    (loop : RetryLoop) (number : Nat) : KeepsLoops (tryPass site loop pass number) := by
  refine (steady_attempt h).bind fun r => ?_
  match r with
  | .ok () => exact steady_pure _
  | .error failure =>
    refine Steady.ite ?_ (steady_throw trivial)
    exact (steady_emit _).keepsLoops.bind fun _ => steady_pure _

theorem keepsPinned_retryPasses {pass : Run W Unit} (h : KeepsLoops pass) (site : LoopSite)
    (loop : RetryLoop) (left : Nat) :
    ∀ done lastError, KeepsPinned (retryPasses site loop pass left done lastError) := by
  induction left with
  | zero => intro done lastError; exact steady_pure _
  | succ left ih =>
    intro done lastError
    refine (keepsPinned_setCursor _).bind fun _ =>
      (steady_bindVar _ _).keepsPinned.bind fun _ =>
        (keepsLoops_tryPass h _ _ _).pinned.bind fun error =>
          keepsLoops_takeSignal.pinned.bind fun signal =>
            (steady_succeeded _ _).keepsPinned.bind fun success => ?_
    exact Steady.ite (steady_pure _) (ih _ _)

/-! ## Loops -/

theorem putsBack_foreachLoop {sorter : Sorter} {pass : Run W Unit} (h : KeepsLoops pass)
    (site : LoopSite) (loop : ForeachLoop) :
    PutsBack [loop.itemVar, loop.indexVar] (foreachLoop sorter site loop pass) := by
  refine putsBack_inFrame ?_ site .iteration _
  refine (steady_itemsOf _ _ _).keepsPinned.bind fun items => (keepsPinned_setTotal _).bind fun _ =>
    (steady_emit _).keepsPinned.bind fun _ => ?_
  exact (keepsPinned_foreachPasses h _ _ _ _).bind fun _ => steady_pure _

theorem putsBack_whileLoop {pass : Run W Unit} (h : KeepsLoops pass) (site : LoopSite)
    (loop : WhileLoop) : PutsBack [loop.counterVar] (whileLoop site loop pass) := by
  refine putsBack_inFrame ?_ site .whilst _
  refine (keepsPinned_whilePasses h _ _ _).bind fun summary => ?_
  dsimp only
  split
  · exact (steady_exhausted _ _ _ _).keepsPinned.bind fun _ => steady_pure _
  · exact steady_pure _

theorem putsBack_rangeLoop {pass : Run W Unit} (h : KeepsLoops pass) (site : LoopSite)
    (loop : RangeLoop) : PutsBack [loop.var] (rangeLoop site loop pass) := by
  refine putsBack_inFrame ?_ site .range _
  refine steady_currentVars.keepsPinned.bind fun vars =>
    (steady_check _ _).keepsPinned.bind fun first =>
      (steady_check _ _).keepsPinned.bind fun last => ?_
  refine (keepsPinned_setTotal _).bind fun _ =>
    (steady_emit _).keepsPinned.bind fun _ => ?_
  exact (keepsPinned_rangePasses h _ _ _ _).bind fun _ => steady_pure _

theorem putsBack_retryLoop {pass : Run W Unit} (h : KeepsLoops pass) (site : LoopSite)
    (loop : RetryLoop) : PutsBack [loop.attemptVar] (retryLoop site loop pass) := by
  refine putsBack_inFrame ?_ site .retry _
  refine (keepsPinned_setTotal _).bind fun _ =>
    (keepsPinned_retryPasses h _ _ _ _ _).bind fun summary => ?_
  dsimp only
  split
  · exact (steady_emit _).keepsPinned.bind fun _ => steady_pure _
  · split
    · exact (steady_exhausted _ _ _ _).keepsPinned.bind fun _ => steady_pure _
    · exact steady_pure _

/-! ## Visits -/

theorem keepsLoops_runShared {body : Run W Unit} (h : KeepsLoops body) (step : Step Unit)
    (path : String) (sig : Signature) (inputs : KeyMap Value) (outputs : KeyMap String) :
    KeepsLoops (runShared step path sig inputs outputs body) := by
  refine steady_currentVars.keepsLoops.bind fun vars => ?_
  split
  · exact steady_throw trivial
  · refine (steady_reportAll _).keepsLoops.bind fun _ =>
      (steady_emit _).keepsLoops.bind fun _ =>
        (steady_bindVar _ _).keepsLoops.bind fun _ => ?_
    refine (keepsLoops_closing h fun p => ?_).bind fun _ =>
      steady_currentVars.keepsLoops.bind fun vars =>
        (keepsLoops_update fun p => ?_).bind fun _ => steady_pure _
    · unfold restoreInputs
      split <;> rfl
    · rfl

theorem keepsLoops_failAt (step : Step Unit) (path : String) (index : Nat) (failure : Failure) :
    KeepsLoops (failAt step path index failure : Run W Unit) := by
  refine Steady.ite ?_ ?_
  · exact (steady_emit _).keepsLoops.bind fun _ =>
      (steady_record _).keepsLoops.bind fun _ => (steady_bindVar _ _).keepsLoops
  · exact (steady_emit _).keepsLoops.bind fun _ =>
      (steady_record _).keepsLoops.bind fun _ => steady_throw trivial

theorem keepsLoops_visit {step : Step Unit} {action : String → Nat → Run W Value}
    (h : ∀ path index, KeepsLoops (action path index)) (scope : String) (index : Nat) :
    KeepsLoops (visit step action scope index) := by
  refine Steady.bind (keepsLoops_update fun p => ?_) fun _ =>
    (steady_emit _).keepsLoops.bind fun _ => (steady_skips step).keepsLoops.bind fun skipped =>
      Steady.ite ?_ ?_
  · rfl
  · exact (steady_emit _).keepsLoops.bind fun _ =>
      (steady_record _).keepsLoops.bind fun _ => steady_pure _
  · refine (steady_emit _).keepsLoops.bind fun _ =>
      (steady_attempt (h _ _)).bind fun r => ?_
    match r with
    | .ok output =>
      exact ((steady_succeed _ _ _).weaken fun _ h => h.elim).keepsLoops.bind fun _ =>
        steady_pure _
    | .error failure => exact (keepsLoops_failAt _ _ _ _).bind fun _ => steady_pure _

theorem keepsLoops_nextIndex (stops : List (Stop W)) (scope name : String) (index : Nat) :
    KeepsLoops (nextIndex stops scope name index) := by
  refine (steady_get.bind fun _ => steady_pure _).bind fun p => Steady.ite (steady_pure _) ?_
  split
  · exact steady_pure _
  · refine Steady.bind (keepsLoops_update fun p => by rfl) fun _ => ?_
    split
    · exact steady_throw trivial
    · exact (steady_emit _).keepsLoops.bind fun _ => steady_pure _

theorem keepsLoops_visitFrom {stops : List (Stop W)}
    (h : ∀ stop ∈ stops, ∀ scope index, KeepsLoops (stop.visit scope index)) (scope : String)
    (fuel : Nat) : ∀ index, KeepsLoops (visitFrom stops scope fuel index) := by
  induction fuel with
  | zero =>
    intro index
    unfold visitFrom
    split
    · exact steady_pure _
    · exact steady_throw trivial
  | succ fuel ih =>
    intro index
    unfold visitFrom
    split
    · exact steady_pure _
    · next stop hstop =>
      refine (h stop (List.mem_of_getElem? hstop) scope index).bind fun ran =>
        Steady.ite ?_ (ih _)
      refine (keepsLoops_nextIndex _ _ _ _).bind fun next => ?_
      match next with
      | some j => exact ih j
      | none => exact steady_pure _

mutual

/-- Every step leaves the active loops as it found them, whatever its end is. -/
theorem keepsLoops_act (env : Setting W) (step : Step Unit) :
    ∀ (action : Action) (path : String) (index : Nat), KeepsLoops (act env step action path index)
  | .bash _ _, _, _ => (steady_runBash (keeps_unit env) _ _ _).keepsLoops
  | .agent _, _, _ => (steady_runAgent (keeps_unit env) _ _).keepsLoops
  | .prompt _, _, _ => (steady_runPrompt (keeps_unit env) _ _).keepsLoops
  | .set _ _ _, _, _ => (steady_runSet _ _ _ _).keepsLoops
  | .log _ _, _, _ => (steady_runLog _ _ _).keepsLoops
  | .goto _, _, _ => (keepsLoops_update fun _ => rfl).bind fun _ => steady_pure _
  | .leave, _, _ => (keepsLoops_update fun _ => rfl).bind fun _ => steady_pure _
  | .next, _, _ => (keepsLoops_update fun _ => rfl).bind fun _ => steady_pure _
  | .foreach _ body, path, _ =>
    (putsBack_foreachLoop (keepsLoops_visitFrom (keepsLoops_stopsOf env body) path _ 0)
      _ _).keepsLoops
  | .whilst _ body, path, _ =>
    (putsBack_whileLoop (keepsLoops_visitFrom (keepsLoops_stopsOf env body) path _ 0)
      _ _).keepsLoops
  | .range _ body, path, _ =>
    (putsBack_rangeLoop (keepsLoops_visitFrom (keepsLoops_stopsOf env body) path _ 0)
      _ _).keepsLoops
  | .retry _ body, path, _ =>
    (putsBack_retryLoop (keepsLoops_visitFrom (keepsLoops_stopsOf env body) path _ 0)
      _ _).keepsLoops
  | .shared ⟨_, _, body, _⟩ _ _, path, _ =>
    keepsLoops_runShared (keepsLoops_visitFrom (keepsLoops_stopsOf env body) path _ 0) _ _ _ _ _
  | .adapter _ _, _, _ => (steady_runAdapter (keeps_unit env) _ _ _ _).keepsLoops

theorem keepsLoops_stopOf (env : Setting W) :
    ∀ (step : Step Action) (scope : String) (index : Nat),
      KeepsLoops ((stopOf env step).visit scope index)
  | ⟨_, _, _, _, _, _, _, action⟩, scope, index =>
    keepsLoops_visit (keepsLoops_act env _ action) scope index

theorem keepsLoops_stopsOf (env : Setting W) :
    ∀ (steps : List (Step Action)), ∀ stop ∈ stopsOf env steps, ∀ (scope : String) (index : Nat),
      KeepsLoops (stop.visit scope index)
  | [], _, h, _, _ => absurd h List.not_mem_nil
  | step :: rest, stop, h, scope, index =>
    (List.mem_cons.1 h).elim (fun heq => heq ▸ keepsLoops_stopOf env step scope index)
      fun hrest => keepsLoops_stopsOf env rest stop hrest scope index

end

/-! ## Results -/

/-- **A loop is invisible from outside.**  Whatever its body does to the variables that the loop
binds, and whatever the end of the loop is, each of them has afterwards the value it had before, or
is absent if it was absent. -/
theorem act_restores_loopVars (env : Setting W) (step : Step Unit) (action : Action)
    (path : String) (index : Nat) (s : RunState W) (name : String) (h : name ∈ action.loopVars) :
    (act env step action path index s).2.progress.vars.find? name =
      s.progress.vars.find? name := by
  have body : ∀ steps scope, KeepsLoops (visitFrom (stopsOf env steps) scope env.fuel 0) :=
    fun steps scope => keepsLoops_visitFrom (keepsLoops_stopsOf env steps) scope env.fuel 0
  cases action with
  | foreach loop steps =>
    rw [act]
    exact (putsBack_foreachLoop (body steps path) _ loop s).2.2 name h
  | whilst loop steps =>
    rw [act]
    exact (putsBack_whileLoop (body steps path) _ loop s).2.2 name h
  | range loop steps =>
    rw [act]
    exact (putsBack_rangeLoop (body steps path) _ loop s).2.2 name h
  | retry loop steps =>
    rw [act]
    exact (putsBack_retryLoop (body steps path) _ loop s).2.2 name h
  | bash _ _ | agent _ | prompt _ | set _ _ _ | log _ _ | goto _ | leave | next
  | shared _ _ _ | adapter _ _ => exact absurd h List.not_mem_nil

end Run

/-- Tools that can do nothing. -/
def Tools.bare : Tools Unit where
  shell _ _ _ w := (.error "no shell", w)
  program _ _ _ _ w := (.error "no programs", w)
  session _ _ w := (none, w)
  publish _ w := w
  adapter _ _ vars w := (⟨.error "no adapters", vars⟩, w)

/-- A setting with tools that can do nothing. -/
def bareSetting (fuel : Nat) : Setting Unit := ⟨.default "/", {}, .bare, .insertion, fuel⟩

namespace Run

/-- A loop that binds the item and its position to one name, around another loop that does so,
around a step that binds the name once more. -/
def shadowing : Action :=
  let loop : ForeachLoop :=
    ⟨.array [.bool true, .bool false], "x", "x", none, none, .ascending, none⟩
  let step (name : String) (action : Action) : Step Action :=
    ⟨name, none, .stop, none, none, none, none, action⟩
  .foreach loop [step "inner" (.foreach loop [step "bind" (.set "x" .null false)])]

theorem act_restores_loopVars_shadowing :
    "x" ∈ shadowing.loopVars ∧
      (act (bareSetting 10) ⟨"outer", none, .stop, none, none, none, none, ()⟩ shadowing "outer" 0
        ⟨.start (KeyMap.empty.insert "x" (.bool true)), [], [], ⟨"", 0, .empty⟩,
          ()⟩).2.progress.vars.find? "x" = some (.bool true) :=
  ⟨by decide, act_restores_loopVars _ _ shadowing _ _ _ "x" (by decide)⟩

end Run

/-!
## Calls of shared steps

What a call comes to, by its inputs and by what its steps do.
-/

namespace Run

variable {W : Type}

/-- The state in which the steps of a call begin. -/
def calling (path : String) (sig : Signature) (inputs bound : KeyMap Value) (s : RunState W) :
    RunState W :=
  { s with
    progress := s.progress.bind inputsVar (.ofMap bound)
    events := .note (.info s!"[Interpreter] {path} -> shared '{sig.name}'") ::
      (((sig.undeclaredNotes inputs).map Event.note).reverse ++ s.events) }

/-- The state after the steps of a call, with the inputs of the caller put back. -/
def putBack (caller : Variables) (t : RunState W) : RunState W :=
  { t with progress := restoreInputs (caller.find? inputsVar) t.progress }

/-- What a call comes to after its steps: their failure, or the outputs, which are copied. -/
def copyOutputs (sig : Signature) (outputs : KeyMap String) (ended : Except Halt Unit)
    (back : RunState W) : Except Halt Value × RunState W :=
  match ended with
  | .error halt => (.error halt, back)
  | .ok () =>
    let exposed := sig.collectOutputs back.progress.vars
    (.ok (.ofMap exposed), { back with progress := { back.progress with
      vars := back.progress.vars.insertAll (outputBindings exposed outputs) } })

variable {step : Step Unit} {path : String} {sig : Signature} {inputs bound : KeyMap Value}
  {outputs : KeyMap String} {body : Run W Unit} {s : RunState W}

theorem runShared_error {failure : Failure}
    (h : sig.bindInputs inputs s.progress.vars = .error failure) :
    runShared step path sig inputs outputs body s =
      (.error (.failed (.stepFailed step.name failure.text)), s) := by
  rw [runShared, bind_ok (show currentVars s = (.ok s.progress.vars, s) from rfl), h]
  rfl

theorem runShared_ok (h : sig.bindInputs inputs s.progress.vars = .ok bound) :
    runShared step path sig inputs outputs body s =
      copyOutputs sig outputs (body (calling path sig inputs bound s)).1
        (putBack s.progress.vars (body (calling path sig inputs bound s)).2) := by
  have hbegin : runShared step path sig inputs outputs body s =
      (closing body (restoreInputs (s.progress.vars.find? inputsVar)) >>= fun _ => do
        let exposed := sig.collectOutputs (← currentVars)
        update (fun p => { p with vars := p.vars.insertAll (outputBindings exposed outputs) })
        return .ofMap exposed) (calling path sig inputs bound s) := by
    rw [runShared, bind_ok (show currentVars s = (.ok s.progress.vars, s) from rfl), h]
    rfl
  rw [hbegin, bind_apply, closing_apply]
  cases (body (calling path sig inputs bound s)).1 <;> rfl

theorem find?_putBack (caller : Variables) (t : RunState W) :
    (putBack caller t).progress.vars.find? inputsVar = caller.find? inputsVar := by
  unfold putBack restoreInputs
  cases caller.find? inputsVar with
  | none => exact KeyMap.find?_erase_self _ _
  | some v => exact KeyMap.find?_insert_self _ _ _

theorem find?_putBack_of_ne (caller : Variables) (t : RunState W) {name : String}
    (h : name ≠ inputsVar) :
    (putBack caller t).progress.vars.find? name = t.progress.vars.find? name := by
  unfold putBack restoreInputs
  cases caller.find? inputsVar with
  | none => exact KeyMap.find?_erase_of_ne _ h
  | some v => exact KeyMap.find?_insert_of_ne _ v h

/-- The names that outputs are copied to. -/
theorem outputBindings_names (exposed : KeyMap Value) (asked : KeyMap String) :
    (outputBindings exposed asked).map Prod.fst =
      if asked.size = 0 then exposed.keys else asked.keys := by
  unfold outputBindings
  split
  · rfl
  · rw [List.map_map]
    rfl

theorem keys_collectOutputs (sig : Signature) (vars : Variables) :
    (sig.collectOutputs vars).keys = sig.outputs.keys := by
  simp only [Signature.collectOutputs, KeyMap.keys, KeyMap.map, Entries.mapValues, List.map_map]
  rfl

end Run

end Runbook
