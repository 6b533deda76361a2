import Runbook.Proofs.Run.Passes

/-!
# Visits of orderly steps

Steps of a sound list are orderly one by one, and so is the list: a jump leads to a step of the
list, and a list that is not the body of a loop is left behind its last step.

* `endsWell_watchDispatch`, `visit_ends` and `nextIndex_ends` are what becomes of one step;
* `leaveFrom_ends` goes from step to step;
* `endsWell_watchedAct` is the induction over actions, and `Block.Sound.endsWell` the result for a
  sound list of steps.
-/

namespace Runbook.Run

open Portion

variable {W α β : Type} {base : List Frame} {names : List String} {inLoop : Bool}
  {around : List LoopTag} {s : RunState (W × History)}

/-! ## One step -/

/-- A moment that is as it should be can be noted. -/
theorem ready_note {what : Happening} (hs : Ready base around s)
    (hm : Moment.Orderly base ⟨what, s.progress⟩) :
    Ends (note what) s (fun r t => Ready base around t ∧ r = .ok ()) := by
  refine ⟨⟨hs.idle, hs.exact, fun m h => ?_⟩, rfl⟩
  rcases List.mem_cons.1 h with rfl | h
  · exact hm
  · exact hs.orderly m h

theorem done_note {what : Happening} (hs : Done base names inLoop around s)
    (hm : Moment.Orderly base ⟨what, s.progress⟩) :
    Ends (note what) s (fun r t => Done base names inLoop around t ∧
      t.progress = s.progress ∧ r = .ok ()) := by
  refine ⟨⟨hs.jump, hs.signal, hs.exact, fun m h => ?_⟩, rfl, rfl⟩
  rcases List.mem_cons.1 h with rfl | h
  · exact hm
  · exact hs.orderly m h

theorem endsWell_watchDispatch {place : Place} {action : Run (W × History) Value}
    (h : ∀ s, Ready base place.around s → Ends action s (EndsWell base names inLoop place.around))
    (hs : Ready base place.around s) :
    Ends (watchDispatch place action) s (EndsWell base names inLoop place.around) := by
  refine Ends.bind (ready_note hs ⟨hs.exact, hs.idle⟩) ?_ fun _ _ hr => by cases hr.2
  rintro - s ⟨hs, -⟩
  refine Ends.bind (ends_attempt (h s hs)) ?_ fun halt t ht => ht
  intro r t ht
  match r, ht with
  | .ok output, ht =>
    have hdone : Done base names inLoop place.around t := ht
    exact Ends.bind (done_note hdone ⟨hdone.exact, trivial⟩) (fun _ _ h => h.1)
      fun _ _ h => by cases h.2.2
  | .error failure, ht =>
    obtain ⟨hof, hready⟩ := ht
    exact Ends.bind (ready_note hready ⟨hready.exact, Halt.ofRun_failed.1 hof⟩)
      (fun _ _ h => ⟨hof, h.1⟩) fun _ _ h => by cases h.2

/-- What holds when a step of a list has been visited. -/
def VisitEnds (base : List Frame) (names : List String) (inLoop : Bool) (around : List LoopTag)
    (r : Except Halt Bool) (t : RunState (W × History)) : Prop :=
  EndsWell base names inLoop around r t ∧ (r = .ok false → Ready base around t)

theorem visit_ends {step : Step Unit} {action : String → Nat → Run (W × History) Value}
    (h : ∀ path index s, Ready base around s →
      Ends (action path index) s (EndsWell base names inLoop around))
    (scope : String) (index : Nat) (hs : Ready base around s) :
    Ends (visit step action scope index) s (VisitEnds base names inLoop around) := by
  have fails : ∀ (halt : Halt) (t : RunState (W × History)), Ready base around t → halt.OfRun →
      VisitEnds base names inLoop around (.error halt) t :=
    fun halt t ht he => ⟨⟨he, ht⟩, fun h => by cases h⟩
  have at_index : WatchedQuiet (update fun p => { p with stepIndex := index } :
      Run (W × History) Unit) := steady_modify fun _ => rfl
  refine (keeps_ready at_index).bind_ends hs (fun _ s hs => ?_) fails
  refine (keeps_ready (steady_emit _)).bind_ends hs (fun _ s hs => ?_) fails
  refine (keeps_ready (steady_skips step)).bind_ends hs (fun skipped s hs => ?_) fails
  refine Ends.ite (fun _ => ?_) fun _ => ?_
  · refine (keeps_ready (steady_emit _)).bind_ends hs (fun _ s hs => ?_) fails
    exact (keeps_ready (steady_record _)).bind_ends hs
      (fun _ s hs => ⟨hs.done, fun _ => hs⟩) fails
  · refine (keeps_ready (steady_emit _)).bind_ends hs (fun _ s hs => ?_) fails
    refine Ends.bind (ends_attempt (h _ _ s hs)) ?_ fun halt t ht => fails halt t ht.2 ht.1
    intro r t ht
    match r, ht with
    -- a step that succeeded may have asked for something, and one that failed has not
    | .ok output, ht =>
      exact (keeps_done (steady_succeed _ _ _)).bind_ends ht
        (fun _ t ht => ⟨ht, fun h => by cases h⟩) fun _ _ _ h => h.elim
    | .error failure, ht =>
      obtain ⟨hof, hready⟩ := ht
      exact (keeps_ready (steady_failAt _ _ _ (Halt.ofRun_failed.1 hof))).bind_ends hready
        (fun _ t ht => ⟨ht.done, fun h => by cases h⟩) fails

/-! ## From step to step -/

/-- What holds when the way on has been found: a jump never leads nowhere. -/
def NextEnds (base : List Frame) (inLoop : Bool) (around : List LoopTag)
    (r : Except Halt (Option Nat)) (t : RunState (W × History)) : Prop :=
  match r with
  | .ok (some _) => Ready base around t
  | .ok none => Done base [] inLoop around t ∧ t.progress.signal ≠ .quiet
  | .error _ => False

theorem nextIndex_ends {stops : List (Stop (W × History))} (hn : stops.map (·.name) = names)
    (scope name : String) (index : Nat) (hs : Done base names inLoop around s) :
    Ends (nextIndex stops scope name index) s (NextEnds base inLoop around) := by
  have hp : (progress : Run (W × History) Progress) s = (.ok s.progress, s) := rfl
  rw [Ends, nextIndex, bind_ok hp]
  by_cases hq : s.progress.signal = .quiet
  · simp only [hq, ne_eq, not_true_eq_false, if_false]
    cases hj : s.progress.jump with
    | none => exact ⟨⟨hq, hj⟩, hs.exact, hs.orderly⟩
    | some target =>
      -- the target is a name of the list, so there is a step to find
      obtain ⟨stop, hmem, hname⟩ := List.mem_map.1 (hn ▸ (hs.jump target hj).1)
      have hfound : (stops.findIdx? (·.name == target)).isSome := by
        rw [List.findIdx?_isSome, List.any_eq_true]
        exact ⟨stop, hmem, by simp [hname]⟩
      obtain ⟨j, hfind⟩ := Option.isSome_iff_exists.1 hfound
      simp only [hfind]
      exact ⟨⟨hq, rfl⟩, hs.exact, hs.orderly⟩
  · simp only [ne_eq, hq, not_false_eq_true, if_true]
    have hj : s.progress.jump = none := by
      cases hj : s.progress.jump with
      | none => rfl
      | some target => exact absurd (hs.jump target hj).2 hq
    exact ⟨hs.of_jump_eq_none hj, hq⟩

/-- A list of steps is left behind its last step, unless a step asked something of the loop. -/
def LeaveEnds (base : List Frame) (inLoop : Bool) (around : List LoopTag) (length : Nat)
    (r : Except Halt Nat) (t : RunState (W × History)) : Prop :=
  EndsWell base [] inLoop around r t ∧
    ∀ index, r = .ok index → t.progress.signal = .quiet → length ≤ index

/-- Stops with these names that can be visited whenever nothing is left to be done. -/
structure Visitable (base : List Frame) (names : List String) (inLoop : Bool)
    (around : List LoopTag) (stops : List (Stop (W × History))) : Prop where
  names_eq : stops.map (·.name) = names
  visit : ∀ stop ∈ stops, ∀ scope index s, Ready base around s →
    Ends (stop.visit scope index) s (VisitEnds base names inLoop around)

theorem leaveFrom_ends {stops : List (Stop (W × History))}
    (h : Visitable base names inLoop around stops) (scope : String) (fuel : Nat) :
    ∀ (index : Nat) (s : RunState (W × History)), Ready base around s →
      Ends (leaveFrom stops scope fuel index) s (LeaveEnds base inLoop around stops.length) := by
  have past : ∀ (index : Nat) (s : RunState (W × History)), Ready base around s →
      stops[index]? = none →
        LeaveEnds base inLoop around stops.length (.ok index) s := by
    intro index s hs hnone
    exact ⟨hs.done, fun i hi _ => by cases hi; exact List.getElem?_eq_none_iff.1 hnone⟩
  -- nothing is left to be done each time a step comes up, so the position is past the end when
  -- the list is left for lack of steps
  induction fuel with
  | zero =>
    intro index s hs
    unfold leaveFrom
    split
    · next hnone => exact past index s hs hnone
    · exact ⟨⟨Halt.ofRun_outOfFuel, hs⟩, fun _ hi => by cases hi⟩
  | succ fuel ih =>
    intro index s hs
    unfold leaveFrom
    split
    · next hnone => exact past index s hs hnone
    · next stop hstop =>
      refine Ends.bind (h.visit stop (List.mem_of_getElem? hstop) scope index s hs) ?_
        fun halt t ht => ⟨ht.1, fun _ hi => by cases hi⟩
      rintro ran s ⟨hdone, hskipped⟩
      cases ran with
      | false => exact ih (index + 1) s (hskipped rfl)
      | true =>
        refine Ends.bind (nextIndex_ends h.names_eq scope stop.name index hdone) ?_
          fun _ _ ht => ht.elim
        intro next s hnext
        cases next with
        | some j => exact ih j s hnext
        | none => exact ⟨hnext.1, fun _ _ hq => absurd hq hnext.2⟩

theorem endsWell_watchList {stops : List (Stop (W × History))}
    (h : Visitable base names inLoop around stops) (scope : String) (fuel : Nat)
    (hs : Ready base around s) :
    Ends (watchList inLoop around stops scope fuel) s (EndsWell base [] inLoop around) := by
  refine Ends.bind (leaveFrom_ends h scope fuel 0 s hs) ?_ fun halt t ht => ht.1
  rintro index t ⟨hdone, hpast⟩
  have hdone : Done base [] inLoop around t := hdone
  refine Ends.mono (done_note hdone ⟨hdone.exact, fun hin => ?_⟩) fun r t ht => ?_
  · have hin : inLoop = false := hin
    subst hin
    exact ⟨hdone.ready.idle, hpast index rfl hdone.ready.idle.1⟩
  · rw [ht.2.2]
    exact ht.1

/-! ## Actions -/

/-- Steps that are not the body of a loop may be followed by a change of the variables. -/
theorem closing_ready {body : Run (W × History) Unit} {close : Progress → Progress}
    (h : ∀ s, Ready base around s → Ends body s (EndsWell base [] false around))
    (hc : ∀ p, (close p).loops = p.loops ∧ (close p).signal = p.signal ∧ (close p).jump = p.jump) :
    Keeps (Ready base around) Halt.OfRun (closing body close) := by
  intro s hs
  rw [Ends, closing_apply]
  have hbody : EndsWell base [] false around (body s).1 (body s).2 := h s hs
  obtain ⟨hl, hsig, hj⟩ := hc (body s).2.progress
  have hcontrol : watchedControl { (body s).2 with progress := close (body s).2.progress } =
      watchedControl (body s).2 := by
    simp only [watchedControl, control, hl, hsig, hj]
  cases hr : (body s).1 with
  | ok a =>
    rw [hr] at hbody
    exact ⟨Ready.of_control hcontrol (Done.ready hbody), fun _ he => by cases he⟩
  | error halt =>
    rw [hr] at hbody
    exact ⟨Ready.of_control hcontrol hbody.2, fun _ he => by cases he; exact hbody.1⟩

theorem keepsReady_runShared {body : Run (W × History) Unit}
    (h : ∀ s, Ready base around s → Ends body s (EndsWell base [] false around))
    (step : Step Unit) (path : String) (sig : Signature) (inputs : KeyMap Value)
    (outputs : KeyMap String) :
    Keeps (Ready base around) Halt.OfRun (runShared step path sig inputs outputs body) := by
  refine (keeps_ready steady_currentVars).bind fun vars => ?_
  split
  · exact keeps_throw (Halt.ofRun_failed.2 rfl)
  · refine (keeps_ready (steady_reportAll _)).bind fun _ =>
      (keeps_ready (steady_emit _)).bind fun _ =>
        (keeps_ready (steady_bindVar _ _)).bind fun _ => Keeps.bind ?_ fun _ =>
          (keeps_ready steady_currentVars).bind fun vars => Keeps.bind ?_ fun _ => keeps_pure _
    · exact closing_ready h fun p => by unfold restoreInputs; split <;> exact ⟨rfl, rfl, rfl⟩
    · exact keeps_ready (steady_modify fun _ => rfl)

theorem watchedStops_names (env : Setting W) (around : List LoopTag) (steps : List (Step Action)) :
    (watchedStops env around steps).map (·.name) = stepNames steps := by
  induction steps with
  | nil => rfl
  | cons step rest ih =>
    rw [watchedStops, List.map_cons, ih]
    cases step
    rfl

/-- The body of a loop is a pass of it. -/
theorem passEnds_body (env : Setting W) {tag : LoopTag} {body : Block} (path : String)
    (h : ∀ stop ∈ watchedStops env (tag :: around) body, ∀ scope index s,
      Ready base (tag :: around) s →
        Ends (stop.visit scope index) s (VisitEnds base (stepNames body) true (tag :: around))) :
    PassEnds base tag around
      (watchList true (tag :: around) (watchedStops env (tag :: around) body) path env.fuel) :=
  passEnds_of_endsWell
    ((shadows_watchList (shadowStops_watchedStops env _ body) _ _ path _).keepsLoops
      (keepsLoops_visitFrom (keepsLoops_stopsOf env body) path env.fuel 0))
    fun _ hs => endsWell_watchList ⟨watchedStops_names env _ body, h⟩ path env.fuel hs

/-- A step that asks for something that can be done where it stands. -/
theorem ends_update {f : Progress → Progress} (hs : Ready base around s)
    (hl : (f s.progress).loops = s.progress.loops)
    (hj : ∀ target, (f s.progress).jump = some target →
      target ∈ names ∧ (f s.progress).signal = .quiet)
    (hsig : (f s.progress).signal ≠ .quiet → inLoop = true) :
    Ends (update f >>= fun _ => pure Value.null) s (EndsWell base names inLoop around) :=
  ⟨hj, hsig, hl ▸ hs.exact, hs.orderly⟩

mutual

/-- A sound action, with whatever lies inside it, ends well. -/
theorem endsWell_watchedAct (env : Setting W) (step : Step Unit) :
    ∀ (action : Action) {names : List String} {inLoop : Bool} {around : List LoopTag},
      actionSound names inLoop action → ∀ (path : String) (index : Nat)
        (s : RunState (W × History)), Ready base around s →
          Ends (watchedAct env around step action path index) s
            (EndsWell base names inLoop around)
  | .bash _ _, _, _, _, _, _, _, _, hs =>
    endsWell_of_keeps (keeps_ready (steady_runBash (keeps_snd env) _ _ _)) hs
  | .agent _, _, _, _, _, _, _, _, hs =>
    endsWell_of_keeps (keeps_ready (steady_runAgent (keeps_snd env) _ _)) hs
  | .prompt _, _, _, _, _, _, _, _, hs =>
    endsWell_of_keeps (keeps_ready (steady_runPrompt (keeps_snd env) _ _)) hs
  | .set _ _ _, _, _, _, _, _, _, _, hs =>
    endsWell_of_keeps (keeps_ready (steady_runSet _ _ _ _)) hs
  | .log _ _, _, _, _, _, _, _, _, hs =>
    endsWell_of_keeps (keeps_ready (steady_runLog _ _ _)) hs
  | .adapter _ _, _, _, _, _, _, _, _, hs =>
    endsWell_of_keeps (keeps_ready (steady_runAdapter (keeps_snd env) _ _ _ _)) hs
  | .goto target, _, _, _, hsound, _, _, _, hs =>
    ends_update hs rfl (fun t ht => by cases ht; exact ⟨hsound, hs.idle.1⟩)
      fun hne => absurd hs.idle.1 hne
  | .leave, _, _, _, hsound, _, _, _, hs =>
    ends_update hs rfl (fun t ht => absurd (hs.idle.2.symm.trans ht) (by simp)) fun _ => hsound
  | .next, _, _, _, hsound, _, _, _, hs =>
    ends_update hs rfl (fun t ht => absurd (hs.idle.2.symm.trans ht) (by simp)) fun _ => hsound
  | .foreach loop body, _, _, _, hsound, path, index, _, hs =>
    endsWell_of_keeps (keepsReady_foreachLoop ⟨step.name, index, path⟩ loop
      (passEnds_body env path (visit_watchedStops env body hsound.2))) hs
  | .whilst loop body, _, _, _, hsound, path, index, _, hs =>
    endsWell_of_keeps (keepsReady_whileLoop ⟨step.name, index, path⟩ loop
      (passEnds_body env path (visit_watchedStops env body hsound.2))) hs
  | .range loop body, _, _, _, hsound, path, index, _, hs =>
    endsWell_of_keeps (keepsReady_rangeLoop ⟨step.name, index, path⟩ loop
      (passEnds_body env path (visit_watchedStops env body hsound.2))) hs
  | .retry loop body, _, _, _, hsound, path, index, _, hs =>
    endsWell_of_keeps (keepsReady_retryLoop ⟨step.name, index, path⟩ loop
      (passEnds_body env path (visit_watchedStops env body hsound.2))) hs
  | .shared ⟨_, _, body, _⟩ _ _, _, _, _, hsound, path, _, _, hs =>
    endsWell_of_keeps (keepsReady_runShared (fun _ hs =>
      endsWell_watchList ⟨watchedStops_names env _ body, visit_watchedStops env body hsound.2⟩
        path env.fuel hs) _ _ _ _ _) hs

theorem visit_watchedStop (env : Setting W) :
    ∀ (step : Step Action) {names : List String} {inLoop : Bool} {around : List LoopTag},
      stepSound names inLoop step → ∀ (scope : String) (index : Nat)
        (s : RunState (W × History)), Ready base around s →
          Ends ((watchedStop env around step).visit scope index) s
            (VisitEnds base names inLoop around)
  | ⟨_, _, _, _, _, _, _, action⟩, _, _, _, hsound, scope, index, _, hs =>
    Ends.bind (ready_note hs ⟨hs.exact, hs.idle⟩)
      (fun _ _ ht => visit_ends (fun path index _ hs =>
        endsWell_watchDispatch (endsWell_watchedAct env _ action hsound path index) hs)
          scope index ht.1)
      fun _ _ ht => by cases ht.2

theorem visit_watchedStops (env : Setting W) :
    ∀ (steps : List (Step Action)) {names : List String} {inLoop : Bool} {around : List LoopTag},
      stepsSound names inLoop steps → ∀ stop ∈ watchedStops env around steps,
        ∀ (scope : String) (index : Nat) (s : RunState (W × History)), Ready base around s →
          Ends (stop.visit scope index) s (VisitEnds base names inLoop around)
  | [], _, _, _, _, _, h, _, _, _, _ => absurd h List.not_mem_nil
  | step :: rest, _, _, _, hsound, stop, h, scope, index, _, hs =>
    (List.mem_cons.1 h).elim (fun heq => heq ▸ visit_watchedStop env step hsound.1 scope index _ hs)
      fun hrest => visit_watchedStops env rest hsound.2 stop hrest scope index _ hs

end

end Runbook.Run
