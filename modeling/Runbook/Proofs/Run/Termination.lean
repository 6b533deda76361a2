import Runbook.Proofs.Run.Fuel
import Runbook.Proofs.Run.Orderly

/-!
# Runs that come to their end

A run can only go on for ever by jumping back.  Where all jumps lead ahead, no list of steps is
visited more often than it is long between entering it and leaving it, whatever the steps do to the
variables of their loops, as loops count their passes themselves.

* `Block.Forward` says that all jumps lead ahead, and `Block.longest` is the length of the longest
  list of steps;
* `Finishes` is what holds of a part that comes to its end, `StepEnds` what holds when a step has
  ended;
* `finishes_visitFrom` is the induction over the steps that lie ahead, `finishes_act` the one over
  what lies inside a step;
* `Workflow.run_terminates` is the result.
-/

namespace Runbook

open Portion

namespace Block

/-- A list of steps whose jumps lead to later steps of it. -/
def JumpsAhead (block : Block) : Prop :=
  ∀ i step target, block[i]? = some step → step.tool = .goto target →
    ∀ j, block.position? target = some j → i < j

/-- Steps whose jumps lead ahead, and so do those in all lists of steps inside them. -/
def Forward (root : Block) : Prop := ∀ inLoop b, root.Has inLoop b → b.JumpsAhead

mutual

/-- The length of the longest list of steps inside an action. -/
def actionLongest : Action → Nat
  | .foreach _ body | .whilst _ body | .range _ body | .retry _ body
  | .shared ⟨_, _, body, _⟩ _ _ => max body.length (innerLongest body)
  | .bash .. | .agent _ | .prompt _ | .set .. | .log .. | .goto _ | .leave | .next
  | .adapter .. => 0

/-- The length of the longest list of steps inside a step. -/
def stepLongest : Step Action → Nat
  | ⟨_, _, _, _, _, _, _, action⟩ => actionLongest action

/-- The length of the longest list of steps inside steps. -/
def innerLongest : List (Step Action) → Nat
  | [] => 0
  | step :: rest => max (stepLongest step) (innerLongest rest)

end

/-- The length of the longest list of steps, the steps themselves or a list inside them. -/
def longest (block : Block) : Nat := max block.length (innerLongest block)

theorem actionLongest_of_body {action : Action} {body : Block} (h : action.body? = some body) :
    actionLongest action = longest body := by
  cases action with
  | foreach _ _ | whilst _ _ | range _ _ | retry _ _ | shared _ _ _ => cases h; rfl
  | bash _ _ | agent _ | prompt _ | set _ _ _ | log _ _ | goto _ | leave | next | adapter _ _ =>
    cases h

theorem actionLongest_le {block : Block} {step : Step Action} (h : step ∈ block) :
    actionLongest step.tool ≤ innerLongest block := by
  have hstep : stepLongest step = actionLongest step.tool := by
    cases step
    rfl
  induction block with
  | nil => exact absurd h List.not_mem_nil
  | cons first rest ih =>
    show _ ≤ max (stepLongest first) (innerLongest rest)
    rcases List.mem_cons.1 h with rfl | h
    · exact hstep ▸ Nat.le_max_left _ _
    · exact Nat.le_trans (ih h) (Nat.le_max_right _ _)

theorem longest_le_of_body {block body : Block} {step : Step Action} (h : step ∈ block)
    (hb : step.tool.body? = some body) : longest body ≤ longest block := by
  rw [← actionLongest_of_body hb]
  exact Nat.le_trans (actionLongest_le h) (Nat.le_max_right _ _)

theorem body?_of_loopBody? {action : Action} {body : Block} (h : action.loopBody? = some body) :
    action.body? = some body := by
  cases action with
  | foreach _ _ | whilst _ _ | range _ _ | retry _ _ => exact h
  | bash _ _ | agent _ | prompt _ | set _ _ _ | log _ _ | goto _ | leave | next | shared _ _ _
  | adapter _ _ => cases h

/-- No list inside a list of steps is longer than the longest. -/
theorem Has.longest_le {root block : Block} {inLoop : Bool} (h : root.Has inLoop block) :
    longest block ≤ longest root := by
  induction h with
  | root => exact Nat.le_refl _
  | loop _ mem body_eq ih =>
    exact Nat.le_trans (longest_le_of_body mem (body?_of_loopBody? body_eq)) ih
  | shared _ mem tool_eq ih =>
    refine Nat.le_trans (longest_le_of_body mem ?_) ih
    rw [tool_eq]
    rfl

/-- What is inside a list is the list itself or inside one of its steps. -/
theorem Has.eq_or_inside {root block : Block} {inLoop : Bool} (h : root.Has inLoop block) :
    block = root ∨ ∃ step ∈ root, ∃ body, step.tool.body? = some body ∧
      ∃ inLoop', Has body inLoop' block := by
  induction h with
  | root => exact .inl rfl
  | @loop _ block body step _ mem body_eq ih =>
    rcases ih with rfl | ⟨first, hfirst, inner, hinner, _, hhas⟩
    · exact .inr ⟨step, mem, body, body?_of_loopBody? body_eq, false, .root⟩
    · exact .inr ⟨first, hfirst, inner, hinner, true, hhas.loop mem body_eq⟩
  | @shared _ block step callee _ _ _ mem tool_eq ih =>
    rcases ih with rfl | ⟨first, hfirst, inner, hinner, _, hhas⟩
    · exact .inr ⟨step, mem, callee.body, by rw [tool_eq]; rfl, false, .root⟩
    · exact .inr ⟨first, hfirst, inner, hinner, false, hhas.shared mem tool_eq⟩

theorem forward_of_inside {root : Block} (h : root.JumpsAhead)
    (hin : ∀ step ∈ root, ∀ body, step.tool.body? = some body → Forward body) : root.Forward := by
  intro inLoop b hb
  rcases hb.eq_or_inside with rfl | ⟨step, mem, body, hbody, _, hhas⟩
  · exact h
  · exact hin step mem body hbody _ b hhas

/-- Steps without jumps. -/
theorem forward_of_no_jumps {root : Block}
    (h : ∀ inLoop b, root.Has inLoop b → ∀ step ∈ b, ∀ target, step.tool ≠ .goto target) :
    root.Forward :=
  fun inLoop b hb _ step target hstep htool =>
    absurd htool (h inLoop b hb step (List.mem_of_getElem? hstep) target)

/-- Steps whose jumps lead ahead, and that are no more than there may be visits, and so are those
in all lists of steps inside them. -/
def Passable (fuel : Nat) (root : Block) : Prop :=
  ∀ inLoop b, root.Has inLoop b → b.JumpsAhead ∧ b.length ≤ fuel

theorem Forward.passable {root : Block} (h : root.Forward) {fuel : Nat} (hf : root.longest ≤ fuel) :
    root.Passable fuel :=
  fun inLoop b hb =>
    ⟨h inLoop b hb, Nat.le_trans (Nat.le_max_left _ _) (Nat.le_trans hb.longest_le hf)⟩

theorem Passable.inside {fuel : Nat} {block body : Block} {step : Step Action}
    (h : block.Passable fuel) (mem : step ∈ block) (hb : step.tool.body? = some body) :
    body.Passable fuel := by
  intro inLoop b hhas
  obtain ⟨_, hbody⟩ := Has.root.inside mem hb
  obtain ⟨inLoop', hinner⟩ := hbody.trans hhas
  exact h inLoop' b hinner

end Block

/-- What halts a part that does not run out of fuel: a failure, or a panic if sorting may panic. -/
def Halt.Timely (sorter : Sorter) : Halt → Prop
  | .failed _ => True
  | .outOfFuel => False
  | .panicked => sorter.Panics

namespace Run

variable {W α β : Type} {sorter : Sorter} {Q : Progress → Prop}

/-! ## Parts that come to their end -/

/-- A part that comes to its end when it begins with nothing left to be done: with `Q`, or halted
with no jump. -/
def Finishes (sorter : Sorter) (Q : Progress → Prop) (m : Run W α) : Prop :=
  ∀ s, s.progress.Idle → Ends m s (fun r t =>
    match r with
    | .ok _ => Q t.progress
    | .error halt => halt.Timely sorter ∧ t.progress.jump = none)

theorem finishes_pure (a : α) : Finishes sorter Progress.Idle (pure a : Run W α) := fun _ hs => hs

theorem finishes_fail (failure : Failure) : Finishes sorter Q (fail failure : Run W α) :=
  fun _ hs => ⟨trivial, hs.2⟩

/-- Sorting that panics halts a loop before its first pass. -/
theorem finishes_panic (h : sorter.Panics) : Finishes sorter Q (throw .panicked : Run W α) :=
  fun _ hs => ⟨h, hs.2⟩

theorem Finishes.bind {m : Run W α} {f : α → Run W β} (hm : Finishes sorter Progress.Idle m)
    (hf : ∀ a, Finishes sorter Q (f a)) : Finishes sorter Q (m >>= f) := fun s hs =>
  Ends.bind (hm s hs) (fun a t ht => hf a t ht) fun _ _ ht => ht

/-- What leaves alone all that a run goes by finishes, if it does not run out of fuel. -/
theorem finishes_of_steady {m : Run W α}
    (h : Steady (control fun _ => ()) (Halt.Timely sorter) m) :
    Finishes sorter Progress.Idle m := by
  intro s hs
  refine Ends.mono (h s) fun r t ⟨hc, he⟩ => ?_
  simp only [control, Control.mk.injEq] at hc
  obtain ⟨-, hsignal, hjump, -⟩ := hc
  cases r with
  | ok a => exact ⟨hsignal.trans hs.1, hjump.trans hs.2⟩
  | error halt => exact ⟨he halt rfl, hjump.trans hs.2⟩

/-- Small parts leave alone all that a run goes by, and do not run out of fuel. -/
theorem composes_steady :
    Composes
      (.ofProperty fun α (m : Run W α) => Steady (control fun _ => ()) (Halt.Timely sorter) m) :=
  overlooks_control.composes fun _ _ => trivial

/-- So do tools whose sessions come to their end. -/
theorem composesTools_steady {env : Setting W} (ha : env.tools.Answer) :
    ComposesTools env env
      (.ofProperty fun α (m : Run W α) => Steady (control fun _ => ()) (Halt.Timely sorter) m) :=
  overlooks_control.composesTools (fun _ _ => trivial) (keeps_unit env) (.inr ha)

theorem composes_finishes :
    Composes (.ofProperty fun α (m : Run W α) => Finishes sorter Progress.Idle m) where
  pure := finishes_pure
  bind := Finishes.bind
  fail _ := finishes_fail _
  currentVars := finishes_of_steady composes_steady.currentVars
  changeVars f := finishes_of_steady (composes_steady.changeVars f)
  emit event := finishes_of_steady (composes_steady.emit event)
  reportAll lines := finishes_of_steady (composes_steady.reportAll lines)

/-- A change of the frames alone. -/
theorem finishes_update {f : Progress → Progress}
    (h : ∀ p, (f p).signal = p.signal ∧ (f p).jump = p.jump) :
    Finishes sorter Progress.Idle (update f : Run W Unit) :=
  fun s hs => ⟨(h s.progress).1.trans hs.1, (h s.progress).2.trans hs.2⟩

theorem onFrame_control (f : Frame → Frame) (p : Progress) :
    (p.onFrame f).signal = p.signal ∧ (p.onFrame f).jump = p.jump := by
  unfold Progress.onFrame
  split <;> exact ⟨rfl, rfl⟩

theorem exitLoop_control (p : Progress) :
    (p.exitLoop.signal = p.signal ∨ p.exitLoop.signal = .quiet) ∧ p.exitLoop.jump = p.jump := by
  unfold Progress.exitLoop
  split
  · exact ⟨.inl rfl, rfl⟩
  · exact ⟨.inr rfl, rfl⟩

theorem finishes_inFrame {m : Run W α} (h : Finishes sorter Progress.Idle m) (site : LoopSite)
    (kind : LoopKind) (names : List String) :
    Finishes sorter Progress.Idle (inFrame site kind names m) := by
  have henter : Finishes sorter Progress.Idle
      (update (·.enterLoop kind site.step site.index names) : Run W Unit) :=
    finishes_update fun _ => ⟨rfl, rfl⟩
  refine henter.bind fun _ s hs => ?_
  have hm := h s hs
  rw [Ends] at hm ⊢
  rw [closing_apply]
  obtain ⟨hsignal, hjump⟩ := exitLoop_control (m s).2.progress
  generalize (m s).1 = r at hm
  cases r with
  | error halt => exact ⟨hm.1, hjump.trans hm.2⟩
  | ok a =>
    refine ⟨?_, hjump.trans hm.2⟩
    rcases hsignal with hsame | hquiet
    · exact hsame.trans hm.1
    · exact hquiet

/-- Loops finish if their passes do. -/
theorem composesLoops_finishes :
    ComposesLoops (.ofProperty fun α (m : Run W α) => Finishes sorter Progress.Idle m) where
  toComposes := composes_finishes
  setCursor _ := finishes_update fun p => onFrame_control _ p
  setTotal _ := finishes_update fun p => onFrame_control _ p
  inFrame site kind names h := finishes_inFrame h site kind names

/-- Once the signal of a pass is taken, nothing is left to be done. -/
theorem Finishes.signalled {pass : Run W α} (h : Finishes sorter (·.jump = none) pass) :
    Finishes sorter Progress.Idle (Run.signalled pass) :=
  fun s hs => Ends.bind (h s hs) (fun _ _ ht => ⟨rfl, ht⟩) fun _ _ ht => ht

theorem finishes_tryPass {pass : Run W Unit} (h : Finishes sorter (·.jump = none) pass)
    (site : LoopSite) (loop : RetryLoop) (number : Nat) :
    Finishes sorter (·.jump = none) (tryPass site loop pass number) := by
  intro s hs
  refine Ends.bind (ends_attempt (h s hs)) (fun r t ht => ?_) fun _ _ ht => ht
  match r, ht with
  | .ok (), ht => exact ht
  | .error failure, ht =>
    refine Ends.ite (fun _ => ?_) fun _ => ?_
    · exact ht.2
    · exact ⟨trivial, ht.2⟩

/-- A call finishes if the steps that it makes do. -/
theorem finishes_runShared {body : Run W Unit} (h : Finishes sorter (·.jump = none) body)
    (step : Step Unit) (path : String) (sig : Signature) (inputs : KeyMap Value)
    (outputs : KeyMap String) :
    Finishes sorter (·.jump = none) (runShared step path sig inputs outputs body) := by
  refine composes_finishes.currentVars.bind fun vars => ?_
  cases sig.bindInputs inputs vars with
  | error failure => exact finishes_fail _
  | ok bound =>
    refine (composes_finishes.reportAll _).bind fun _ => (composes_finishes.emit _).bind fun _ =>
      (composes_finishes.bindVar _ _).bind fun _ s hs => ?_
    have hclose : ∀ p, (restoreInputs (vars.find? inputsVar) p).jump = p.jump := by
      intro p
      unfold restoreInputs
      split <;> rfl
    refine Ends.bind (P := fun r t => match r with
      | .ok _ => t.progress.jump = none
      | .error halt => halt.Timely sorter ∧ t.progress.jump = none) ?_ (fun _ t ht => ht)
      fun _ _ ht => ht
    have hb := h s hs
    rw [Ends] at hb ⊢
    rw [closing_apply]
    generalize (body s).1 = r at hb
    cases r with
    | ok a => exact (hclose _).trans hb
    | error halt => exact ⟨hb.1, (hclose _).trans hb.2⟩

/-! ## Visits -/

/-- What a step may have asked for when it has ended: a jump only if it is one, and then nothing of
its loop. -/
def Asked (action : Action) (p : Progress) : Prop :=
  ∀ target, p.jump = some target → action = .goto target ∧ p.signal = .quiet

theorem asked_of_jump_eq_none {action : Action} {p : Progress} (h : p.jump = none) :
    Asked action p := by
  intro target ht
  rw [h] at ht
  cases ht

theorem Finishes.weaken {m : Run W α} (h : Finishes sorter Q m) {Q' : Progress → Prop}
    (hQ : ∀ p, Q p → Q' p) : Finishes sorter Q' m := by
  intro s hs
  refine Ends.mono (h s hs) fun r t ht => ?_
  cases r with
  | ok a => exact hQ _ ht
  | error halt => exact ht

/-- A step that finishes with nothing left to be done has asked for nothing. -/
theorem Finishes.asked {m : Run W α} (h : Finishes sorter Progress.Idle m) {action : Action} :
    Finishes sorter (Asked action) m :=
  h.weaken fun _ hp => asked_of_jump_eq_none hp.2

theorem asked_of_control {action : Action} {s t : RunState W}
    (hc : control (fun _ => ()) t = control (fun _ => ()) s) (h : Asked action s.progress) :
    Asked action t.progress := by
  simp only [control, Control.mk.injEq] at hc
  obtain ⟨-, hsignal, hjump, -⟩ := hc
  exact fun target ht => hsignal ▸ h target (hjump ▸ ht)

/-- A failure is noted without a jump, whether or not the run goes past it. -/
theorem failAt_ends (step : Step Unit) (path : String) (index : Nat) (failure : Failure)
    (s : RunState W) :
    Ends (failAt step path index failure) s (fun r t =>
      t.progress.jump = s.progress.jump ∧ ∀ halt, r = .error halt → halt = .failed failure) := by
  refine Ends.ite (fun _ => ⟨rfl, ?_⟩) fun _ => ⟨rfl, ?_⟩
  · intro halt hr
    cases hr
  · intro halt hr
    cases hr
    rfl

/-- What holds when a step has been visited. -/
def VisitDone (sorter : Sorter) (action : Action) (r : Except Halt Bool) (t : RunState W) : Prop :=
  match r with
  | .ok true => Asked action t.progress
  | .ok false => t.progress.Idle
  | .error halt => halt.Timely sorter ∧ t.progress.jump = none

theorem visitDone_visit {action : Action} {step : Step Unit} {does : String → Nat → Run W Value}
    (h : ∀ path index, Finishes sorter (Asked action) (does path index)) (scope : String)
    (index : Nat) {s : RunState W} (hs : s.progress.Idle) :
    Ends (visit step does scope index) s (VisitDone sorter action) := by
  have hindex : Finishes sorter Progress.Idle
      (update fun p => { p with stepIndex := index } : Run W Unit) :=
    finishes_update fun _ => ⟨rfl, rfl⟩
  refine Ends.bind (hindex s hs) (fun _ s hs => ?_) fun _ _ ht => ht
  refine Ends.bind (composes_finishes.emit _ s hs) (fun _ s hs => ?_) fun _ _ ht => ht
  refine Ends.bind (composes_finishes.skips step s hs) (fun skipped s hs => ?_) fun _ _ ht => ht
  refine Ends.ite (fun _ => hs) fun _ => ?_
  refine Ends.bind (composes_finishes.emit _ s hs) (fun _ s hs => ?_) fun _ _ ht => ht
  refine Ends.bind (ends_attempt (h _ _ s hs)) (fun r t ht => ?_) fun _ _ ht => ht
  match r, ht with
  | .ok output, ht =>
    have hsucceed := steady_succeed (g := fun _ : W => ()) step (stepPath scope step.name) output t
    exact Ends.bind hsucceed (fun _ u hu => asked_of_control hu.1 ht) fun _ _ hu =>
      (hu.2 _ rfl).elim
  | .error failure, ht =>
    refine Ends.bind (failAt_ends step _ index failure t) (fun _ u hu => ?_) fun _ u hu => ?_
    · exact asked_of_jump_eq_none (hu.1.trans ht.2)
    · rw [hu.2 _ rfl]
      exact ⟨trivial, hu.1.trans ht.2⟩

/-- Stops that are those of the steps of a list, and come to their end. -/
def Visits (sorter : Sorter) (block : Block) (stops : List (Stop W)) : Prop :=
  List.Forall₂ (fun step stop => stop.name = step.name ∧
    ∀ scope index s, s.progress.Idle →
      Ends (stop.visit scope index) s (VisitDone sorter step.tool)) block stops

theorem Visits.position? {block : Block} {stops : List (Stop W)} (h : Visits sorter block stops)
    (target : String) : stops.findIdx? (·.name == target) = block.position? target := by
  unfold Block.position?
  induction h with
  | nil => rfl
  | cons hstop _ ih => rw [List.findIdx?_cons, List.findIdx?_cons, hstop.1, ih]

theorem Visits.getElem? {block : Block} {stops : List (Stop W)} (h : Visits sorter block stops)
    {i : Nat} {stop : Stop W} (hs : stops[i]? = some stop) :
    ∃ step, block[i]? = some step ∧ ∀ scope index s, s.progress.Idle →
      Ends (stop.visit scope index) s (VisitDone sorter step.tool) := by
  induction h generalizing i with
  | nil => cases hs
  | cons hstop _ ih =>
    cases i with
    | zero =>
      cases hs
      exact ⟨_, rfl, hstop.2⟩
    | succ i => exact ih hs

/-- The way on from a step leads to a later position, with nothing left to be done. -/
theorem nextIndex_ahead {block : Block} {stops : List (Stop W)} (h : Visits sorter block stops)
    (hj : block.JumpsAhead) (scope name : String) {index : Nat} {step : Step Action}
    (hstep : block[index]? = some step) {s : RunState W} (hs : Asked step.tool s.progress) :
    Ends (nextIndex stops scope name index) s (fun r t =>
      match r with
      | .ok (some j) => index < j ∧ t.progress.Idle
      | .ok none => t.progress.jump = none
      | .error halt => halt.Timely sorter ∧ t.progress.jump = none) := by
  have hp : (progress : Run W Progress) s = (.ok s.progress, s) := rfl
  rw [Ends, nextIndex, bind_ok hp]
  by_cases hq : s.progress.signal = .quiet
  · simp only [hq, ne_eq, not_true_eq_false, if_false]
    cases hjump : s.progress.jump with
    | none => exact ⟨Nat.lt_succ_self index, hq, hjump⟩
    | some target =>
      simp only [h.position? target]
      cases hpos : block.position? target with
      | none => exact ⟨trivial, rfl⟩
      | some j => exact ⟨hj index step target hstep (hs target hjump).1 j hpos, hq, rfl⟩
  · simp only [ne_eq, hq, not_false_eq_true, if_true]
    show s.progress.jump = none
    by_contra hjump
    obtain ⟨target, ht⟩ := Option.ne_none_iff_exists'.1 hjump
    exact hq (hs target ht).2

/-- A list of steps whose jumps lead ahead is left within as many visits as there are steps from
the position that is up. -/
theorem finishes_visitFrom {block : Block} {stops : List (Stop W)} (h : Visits sorter block stops)
    (hj : block.JumpsAhead) (scope : String) (fuel : Nat) :
    ∀ index, block.length ≤ fuel + index →
      Finishes sorter (·.jump = none) (visitFrom stops scope fuel index) := by
  induction fuel with
  | zero =>
    intro index hlength s hs
    have hnone : stops[index]? = none := by
      rw [List.getElem?_eq_none_iff, ← h.length_eq]
      omega
    rw [visitFrom, hnone]
    exact hs.2
  | succ fuel ih =>
    intro index hlength s hs
    rw [visitFrom]
    cases hstop : stops[index]? with
    | none => exact hs.2
    | some stop =>
      obtain ⟨step, hstep, hvisit⟩ := h.getElem? hstop
      refine Ends.bind (hvisit scope index s hs) (fun ran t ht => ?_) fun _ _ ht => ht
      cases ran with
      | false => exact ih (index + 1) (by omega) t ht
      | true =>
        refine Ends.bind (nextIndex_ahead h hj scope stop.name hstep ht) (fun next u hu => ?_)
          fun _ _ hu => hu
        cases next with
        | none => exact hu
        | some j => exact ih j (by have := hu.1; omega) u hu.2

/-! ## Actions -/

theorem finishes_ask (f : Progress → Progress) {action : Action}
    (h : ∀ p, p.Idle → Asked action (f p)) :
    Finishes sorter (Asked action) (update f >>= fun _ => pure Value.null : Run W Value) :=
  fun s hs => h s.progress hs

mutual

/-- A step finishes if the jumps inside it lead ahead, and has asked for no jump but its own. -/
theorem finishes_act {env : Setting W} (ha : env.tools.Answer) (step : Step Unit) :
    ∀ (action : Action), (∀ body, action.body? = some body → body.Passable env.fuel) →
      ∀ (path : String) (index : Nat),
        Finishes env.sorter (Asked action) (act env step action path index)
  | .bash _ _, _, _, _ => (finishes_of_steady ((composesTools_steady ha).runBash _ _ _)).asked
  | .agent _, _, _, _ => (finishes_of_steady ((composesTools_steady ha).runAgent _ _)).asked
  | .prompt _, _, _, _ => (finishes_of_steady ((composesTools_steady ha).runPrompt _ _)).asked
  | .adapter _ _, _, _, _ =>
    (finishes_of_steady ((composesTools_steady ha).runAdapter _ _ _ _)).asked
  | .set _ _ _, _, _, _ => (composes_finishes.runSet _ _ _ _).asked
  | .log _ _, _, _, _ => (composes_finishes.runLog _ _ _).asked
  | .goto _, _, _, _ => finishes_ask _ fun p hp target ht => by cases ht; exact ⟨rfl, hp.1⟩
  | .leave, _, _, _ | .next, _, _, _ => finishes_ask _ fun _ hp => asked_of_jump_eq_none hp.2
  | .foreach loop body, h, path, _ =>
    (composesLoops_finishes.foreachLoop_self finishes_panic
      (finishes_body ha body path (h body rfl)).signalled _ loop).asked
  | .whilst loop body, h, path, _ =>
    (composesLoops_finishes.whileLoop_self
      (finishes_body ha body path (h body rfl)).signalled _ loop).asked
  | .range loop body, h, path, _ =>
    (composesLoops_finishes.rangeLoop_self
      (finishes_body ha body path (h body rfl)).signalled _ loop).asked
  | .retry _ body, h, path, _ =>
    Finishes.asked (composesLoops_finishes.retryLoop_self fun number =>
      (finishes_tryPass (finishes_body ha body path (h body rfl)) _ _ number).signalled)
  | .shared ⟨_, _, body, _⟩ _ _, h, path, _ =>
    (finishes_runShared (finishes_body ha body path (h body rfl)) _ _ _ _ _).weaken fun _ =>
      asked_of_jump_eq_none

theorem finishes_body {env : Setting W} (ha : env.tools.Answer) :
    ∀ (body : List (Step Action)) (path : String), Block.Passable env.fuel body →
      Finishes env.sorter (·.jump = none) (visitFrom (stopsOf env body) path env.fuel 0)
  | body, path, h =>
    finishes_visitFrom (visits_stopsOf ha body fun _ mem _ hb => h.inside mem hb)
      (h _ _ .root).1 path env.fuel 0 (h _ _ .root).2

theorem visits_stopsOf {env : Setting W} (ha : env.tools.Answer) :
    ∀ (steps : List (Step Action)),
      (∀ step ∈ steps, ∀ body, step.tool.body? = some body → Block.Passable env.fuel body) →
        Visits env.sorter steps (stopsOf env steps)
  | [], _ => .nil
  | step :: rest, h =>
    .cons ⟨stopOf_name env step, visitDone_stopOf ha step (h step List.mem_cons_self)⟩
      (visits_stopsOf ha rest fun _ mem => h _ (List.mem_cons_of_mem _ mem))

theorem visitDone_stopOf {env : Setting W} (ha : env.tools.Answer) :
    ∀ (step : Step Action),
      (∀ body, step.tool.body? = some body → Block.Passable env.fuel body) →
        ∀ (scope : String) (index : Nat) (s : RunState W), s.progress.Idle →
          Ends ((stopOf env step).visit scope index) s (VisitDone env.sorter step.tool)
  | ⟨_, _, _, _, _, _, _, action⟩, h, scope, index, _, hs =>
    visitDone_visit (finishes_act ha _ action h) scope index hs

end

end Run

/-- A run whose jumps lead ahead ends in the same way with fuel for as many visits as the longest
list has steps, and with all that is more. -/
theorem Workflow.block_of_longest_le {W : Type} (w : Workflow) (env : Setting W)
    (hf : w.body.Forward) (ha : env.tools.Answer) (overrides : List (String × Value))
    (directory : String) (world : W) :
    ∃ (r : Except Halt Unit) (t : RunState W), (∀ halt, r = .error halt → halt.Timely env.sorter) ∧
      ∀ fuel, w.body.longest ≤ fuel →
        Run.block { env with defaults := w.defaults, fuel } w.body ""
          (w.start env.config overrides directory world) = (r, t) := by
  let enough : Setting W := { env with defaults := w.defaults, fuel := w.body.longest }
  have hanswer : enough.tools.Answer := ha
  have hbody : Run.Finishes env.sorter (·.jump = none) (Run.block enough w.body "") :=
    Run.finishes_body hanswer w.body "" (hf.passable (Nat.le_refl _))
  rcases hend : Run.block enough w.body "" (w.start env.config overrides directory world)
    with ⟨r, t⟩
  have htimely : ∀ halt, r = .error halt → halt.Timely env.sorter := by
    rintro halt rfl
    have hends := hbody (w.start env.config overrides directory world) ⟨rfl, rfl⟩
    rw [Ends, hend] at hends
    exact hends.1
  refine ⟨r, t, htimely, fun fuel hle => ?_⟩
  rw [← hend]
  refine Run.block_of_fuel_le { env with defaults := w.defaults } w.body "" hle fun hout => ?_
  exact htimely .outOfFuel (hout ▸ congrArg Prod.fst hend.symm)

/-- **A run whose jumps lead ahead comes to its end**, whatever the workflow starts with and
whatever its steps do, if the sessions that it opens come to theirs.  Fuel for as many visits as the
longest list has steps is enough, and the run is the same with all that is more.  It ends with a
report, or, if sorting may panic, in a panic. -/
theorem Workflow.run_terminates {W : Type} (w : Workflow) (env : Setting W)
    (hf : w.body.Forward) (ha : env.tools.Answer) (overrides : List (String × Value))
    (directory : String) (world : W) :
    (∃ report world', ∀ fuel, w.body.longest ≤ fuel →
      w.run { env with fuel } overrides directory world = (some report, world')) ∨
    (env.sorter.Panics ∧ ∃ t, ∀ fuel, w.body.longest ≤ fuel →
      Run.block { env with defaults := w.defaults, fuel } w.body ""
        (w.start env.config overrides directory world) = (.error .panicked, t)) := by
  obtain ⟨r, t, htimely, hblock⟩ := w.block_of_longest_le env hf ha overrides directory world
  match r with
  | .ok () =>
    refine .inl ⟨w.finished t, t.world, fun fuel hle => ?_⟩
    rw [Workflow.run, hblock fuel hle]
  | .error (.failed failure) =>
    refine .inl ⟨w.halted failure t, t.world, fun fuel hle => ?_⟩
    rw [Workflow.run, hblock fuel hle]
  | .error .outOfFuel => exact (htimely .outOfFuel rfl).elim
  | .error .panicked => exact .inr ⟨htimely .panicked rfl, t, hblock⟩

/-- A run without jumps comes to its end, with a report if sorting does not panic. -/
theorem Workflow.report_of_no_jumps {W : Type} (w : Workflow) (env : Setting W)
    (hj : ∀ inLoop b, w.body.Has inLoop b → ∀ step ∈ b, ∀ target, step.tool ≠ .goto target)
    (ha : env.tools.Answer) (hp : ¬ env.sorter.Panics) (overrides : List (String × Value))
    (directory : String) (world : W) {fuel : Nat} (hle : w.body.longest ≤ fuel) :
    ∃ report world', w.run { env with fuel } overrides directory world = (some report, world') := by
  obtain ⟨r, t, htimely, hblock⟩ := w.block_of_longest_le env (Block.forward_of_no_jumps hj) ha
    overrides directory world
  rw [Workflow.run, hblock fuel hle]
  match r with
  | .ok () => exact ⟨_, _, rfl⟩
  | .error (.failed _) => exact ⟨_, _, rfl⟩
  | .error .outOfFuel => exact (htimely .outOfFuel rfl).elim
  | .error .panicked => exact (hp (htimely .panicked rfl)).elim

/-- A loop whose passes jump over a command, and bind the variable of the loop. -/
def skipAhead : Workflow where
  name := "skip-ahead"
  description := none
  source := none
  vars := .empty
  defaults := {}
  body :=
    let step (name : String) (action : Action) : Step Action :=
      ⟨name, none, .stop, none, none, none, none, action⟩
    [step "each" (.foreach
      ⟨.array [.bool true, .bool false], "item", "item", none, none, .ascending, none⟩
      [step "over" (.goto "again"), step "skipped" (.bash "false" none),
        step "again" (.set "item" .null false)])]

/-- Tools that can do nothing, and say so when a session is asked for. -/
def Tools.mute : Tools Unit :=
  { Tools.bare with session := fun _ _ w => (some (.error (.spawn "no panes")), w) }

theorem forward_skipAhead : skipAhead.body.Forward := by
  -- the only jump is that of the first of three steps to the third
  have hpass : Block.Forward (skipAhead.body.flatMap fun step => (step.tool.body?).getD []) := by
    refine Block.forward_of_inside (fun i step target hstep htool j hj => ?_)
      fun step hmem body hbody => ?_
    · rcases i with _ | _ | _ | i
      · cases hstep
        cases htool
        cases hj
        decide
      · cases hstep
        cases htool
      · cases hstep
        cases htool
      · cases hstep
    · rcases List.mem_cons.1 hmem with rfl | hmem
      · cases hbody
      rcases List.mem_cons.1 hmem with rfl | hmem
      · cases hbody
      rcases List.mem_singleton.1 hmem with rfl
      cases hbody
  refine Block.forward_of_inside (fun i step target hstep htool => ?_)
    fun step hmem body hbody => ?_
  · rcases i with _ | i
    · cases hstep
      cases htool
    · cases hstep
  · rcases List.mem_singleton.1 hmem with rfl
    cases hbody
    exact hpass

theorem Workflow.run_terminates_skipAhead :
    skipAhead.body.Forward ∧ Tools.mute.Answer ∧ ∃ report world', ∀ fuel, 3 ≤ fuel →
      skipAhead.run ⟨.default "/", {}, .mute, .insertion, fuel⟩ [] "" () = (some report, world') :=
  ⟨forward_skipAhead, fun _ _ _ => rfl,
    (skipAhead.run_terminates ⟨.default "/", {}, .mute, .insertion, 0⟩ forward_skipAhead
      (fun _ _ _ => rfl) [] "" ()).resolve_right fun h => Sorter.not_panics_insertion h.1⟩

end Runbook
