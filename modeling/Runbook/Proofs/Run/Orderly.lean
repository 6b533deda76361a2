import Runbook.Proofs.Run.Watching
import Runbook.Proofs.Workflow.Valid

/-!
# Orderly runs

The invariant of a run of sound steps: whenever the turn of a step comes, the active loops are
exactly those around it, and nothing is left to be done for the step before.

* `Exact` says that frames are those of the loops around a step, each at a pass that it has;
* `Moment.Orderly` is what holds at each moment of a history;
* `Ready` is the state before a step, `Done` the state after it, and `EndsWell` is what holds of a
  step or a list of steps that has ended;
* `Resting` is the state of a loop between two passes.
-/

namespace Runbook

open Portion

/-- Nothing is asked of a loop, and there is no step to jump to. -/
def Progress.Idle (p : Progress) : Prop := p.signal = .quiet ∧ p.jump = none

/-- Frames that belong to these loop steps, each at one of the passes that it has, over the frames
that there were before. -/
def Exact (base : List Frame) (around : List LoopTag) (loops : List Frame) : Prop :=
  ∃ active, loops = active ++ base ∧ active.map Frame.tag = around ∧
    ∀ frame ∈ active, ∀ total, frame.total = some total → frame.cursor < total

/-- What holds at every moment of a run of sound steps that begins in the frames of `base`. -/
def Moment.Orderly (base : List Frame) (m : Moment) : Prop :=
  Exact base m.what.around m.progress.loops ∧
    match m.what with
    | .turn _ | .dispatched _ => m.progress.Idle
    | .ended _ (.error failure) => failure.ofRun = true
    | .ended _ (.ok _) => True
    | .left list index => list.inLoop = false → m.progress.Idle ∧ list.length ≤ index

theorem exact_self (base : List Frame) : Exact base [] base :=
  ⟨[], rfl, rfl, fun _ h => absurd h List.not_mem_nil⟩

theorem Exact.eq_base {base loops : List Frame} (h : Exact base [] loops) : loops = base := by
  obtain ⟨active, rfl, ht, -⟩ := h
  rw [List.map_eq_nil_iff.1 ht, List.nil_append]

theorem Exact.cons {base : List Frame} {tag : LoopTag} {around : List LoopTag} {frame : Frame}
    {outer : List Frame} (h : Exact base around outer) (ht : frame.tag = tag)
    (hc : ∀ total, frame.total = some total → frame.cursor < total) :
    Exact base (tag :: around) (frame :: outer) := by
  obtain ⟨active, rfl, hactive, hcursor⟩ := h
  refine ⟨frame :: active, rfl, by rw [List.map_cons, ht, hactive], fun f hf => ?_⟩
  rcases List.mem_cons.1 hf with rfl | hf
  · exact hc
  · exact hcursor f hf

namespace Run

variable {W α β : Type}

/-! ## States -/

/-- The state of a run before a step with these loops around it. -/
structure Ready (base : List Frame) (around : List LoopTag) (s : RunState (W × History)) :
    Prop where
  idle : s.progress.Idle
  exact : Exact base around s.progress.loops
  orderly : ∀ m ∈ s.world.2, m.Orderly base

/-- The state of a loop when it is in control: its frame is the innermost one. -/
structure InFrame (base : List Frame) (tag : LoopTag) (around : List LoopTag) (total : Option Nat)
    (s : RunState (W × History)) : Prop where
  jump : s.progress.jump = none
  frames : ∃ frame outer, s.progress.loops = frame :: outer ∧ frame.tag = tag ∧
    frame.total = total ∧ Exact base around outer
  orderly : ∀ m ∈ s.world.2, m.Orderly base

/-- The state of a loop between two passes. -/
def Resting (base : List Frame) (tag : LoopTag) (around : List LoopTag) (total : Option Nat)
    (s : RunState (W × History)) : Prop :=
  InFrame base tag around total s ∧ s.progress.signal = .quiet

/-- The state of a run after a step of a list with these names that came to its end. -/
structure Done (base : List Frame) (names : List String) (inLoop : Bool) (around : List LoopTag)
    (s : RunState (W × History)) : Prop where
  jump : ∀ target, s.progress.jump = some target → target ∈ names ∧ s.progress.signal = .quiet
  signal : s.progress.signal ≠ .quiet → inLoop = true
  exact : Exact base around s.progress.loops
  orderly : ∀ m ∈ s.world.2, m.Orderly base

/-- What holds when a step of a list with these names has ended.  With no names at all it is what
holds when a whole list has been left, as jumps are over then. -/
def EndsWell (base : List Frame) (names : List String) (inLoop : Bool) (around : List LoopTag)
    (r : Except Halt α) (t : RunState (W × History)) : Prop :=
  match r with
  | .error halt => halt.OfRun ∧ Ready base around t
  | .ok _ => Done base names inLoop around t

/-- What a watched run goes by, its history with it. -/
abbrev watchedControl (s : RunState (W × History)) : Control History := control Prod.snd s

variable {base : List Frame} {names : List String} {inLoop : Bool} {tag : LoopTag}
  {around : List LoopTag} {total : Option Nat} {s t : RunState (W × History)}

theorem Ready.done (h : Ready base around s) : Done base names inLoop around s where
  jump target ht := by
    rw [h.idle.2] at ht
    cases ht
  signal hs := absurd h.idle.1 hs
  exact := h.exact
  orderly := h.orderly

theorem Done.of_jump_eq_none (h : Done base names inLoop around s) (hj : s.progress.jump = none) :
    Done base [] inLoop around s where
  jump target ht := by
    rw [hj] at ht
    cases ht
  signal := h.signal
  exact := h.exact
  orderly := h.orderly

/-- No jump leads out of a list of steps. -/
theorem Done.jump_eq_none (h : Done base [] inLoop around s) : s.progress.jump = none := by
  cases hj : s.progress.jump with
  | none => rfl
  | some target => exact absurd (h.jump target hj).1 List.not_mem_nil

/-- Nothing is left to be done after a list of steps that is not the body of a loop. -/
theorem Done.ready (h : Done base [] false around s) : Ready base around s where
  idle := by
    refine ⟨?_, h.jump_eq_none⟩
    by_contra hs
    exact absurd (h.signal hs) Bool.false_ne_true
  exact := h.exact
  orderly := h.orderly

theorem Ready.of_control (hc : watchedControl t = watchedControl s) (h : Ready base around s) :
    Ready base around t := by
  simp only [watchedControl, control, Control.mk.injEq] at hc
  obtain ⟨hl, hs, hj, hw⟩ := hc
  exact ⟨⟨hs.trans h.idle.1, hj.trans h.idle.2⟩, hl ▸ h.exact, hw ▸ h.orderly⟩

theorem Done.of_control (hc : watchedControl t = watchedControl s)
    (h : Done base names inLoop around s) : Done base names inLoop around t := by
  simp only [watchedControl, control, Control.mk.injEq] at hc
  obtain ⟨hl, hs, hj, hw⟩ := hc
  exact ⟨fun target ht => hs ▸ h.jump target (hj ▸ ht), fun hne => h.signal (hs ▸ hne),
    hl ▸ h.exact, hw ▸ h.orderly⟩

theorem Resting.of_control (hc : watchedControl t = watchedControl s)
    (h : Resting base tag around total s) : Resting base tag around total t := by
  simp only [watchedControl, control, Control.mk.injEq] at hc
  obtain ⟨hl, hs, hj, hw⟩ := hc
  exact ⟨⟨hj.trans h.1.jump, hl ▸ h.1.frames, hw ▸ h.1.orderly⟩, hs.trans h.2⟩

/-- Parts that do not touch what a run goes by. -/
abbrev WatchedQuiet (part : Run (W × History) α) : Prop := Quiet Prod.snd part

theorem keeps_ready {part : Run (W × History) α} (h : WatchedQuiet part) :
    Keeps (Ready base around) Halt.OfRun part :=
  Steady.keeps h fun _ _ => Ready.of_control

/-- A part after which a run is ready for the next step ends well in any list. -/
theorem endsWell_of_keeps {part : Run (W × History) α}
    (h : Keeps (Ready base around) Halt.OfRun part) (hs : Ready base around s) :
    Ends part s (EndsWell base names inLoop around) := by
  refine Ends.mono (h s hs) fun r t ⟨ht, he⟩ => ?_
  cases r with
  | ok _ => exact ht.done
  | error halt => exact ⟨he halt rfl, ht⟩

theorem keeps_done {part : Run (W × History) α} {P : Halt → Prop}
    (h : Steady watchedControl P part) : Keeps (Done base names inLoop around) P part :=
  Steady.keeps h fun _ _ => Done.of_control

theorem keeps_resting {part : Run (W × History) α} (h : WatchedQuiet part) :
    Keeps (Resting base tag around total) Halt.OfRun part :=
  Steady.keeps h fun _ _ => Resting.of_control

theorem keeps_snd (env : Setting W) : env.watched.tools.Keeps Prod.snd :=
  keeps_beside env.tools History

/-! ## Frames -/

/-- The state of a loop when a pass begins. -/
def AtPass (base : List Frame) (tag : LoopTag) (around : List LoopTag) (total : Option Nat)
    (s : RunState (W × History)) : Prop :=
  Ready base (tag :: around) s ∧ InFrame base tag around total s

theorem keeps_atPass {part : Run (W × History) α} (h : WatchedQuiet part) :
    Keeps (AtPass base tag around total) Halt.OfRun part :=
  Steady.keeps h fun _ _ hc hs =>
    ⟨hs.1.of_control hc, (Resting.of_control hc ⟨hs.2, hs.1.idle.1⟩).1⟩

/-- A pass that a loop has can begin. -/
theorem setCursor_ends (h : Resting base tag around total s) {cursor : Nat}
    (hc : ∀ n, total = some n → cursor < n) :
    Ends (update (·.setCursor cursor)) s
      (fun r t => AtPass base tag around total t ∧ r = .ok ()) := by
  obtain ⟨⟨hj, ⟨frame, outer, hl, htag, htotal, hexact⟩, ho⟩, hs⟩ := h
  have hloops : (s.progress.setCursor cursor).loops = { frame with cursor } :: outer := by
    simp only [Progress.setCursor, Progress.onFrame, hl]
  have hsignal : (s.progress.setCursor cursor).signal = s.progress.signal := by
    simp only [Progress.setCursor, Progress.onFrame, hl]
  have hjump : (s.progress.setCursor cursor).jump = s.progress.jump := by
    simp only [Progress.setCursor, Progress.onFrame, hl]
  refine ⟨⟨⟨⟨hsignal.trans hs, hjump.trans hj⟩, ?_, ho⟩, ⟨hjump.trans hj, ?_, ho⟩⟩, rfl⟩
  · show Exact base (tag :: around) (s.progress.setCursor cursor).loops
    rw [hloops]
    exact hexact.cons htag fun n hn => hc n (htotal ▸ hn)
  · exact ⟨_, outer, hloops, htag, htotal, hexact⟩

theorem setTotal_ends (h : Resting base tag around total s) (n : Nat) :
    Ends (update (·.setTotal n)) s
      (fun r t => Resting base tag around (some n) t ∧ r = .ok ()) := by
  obtain ⟨⟨hj, ⟨frame, outer, hl, htag, htotal, hexact⟩, ho⟩, hs⟩ := h
  have hp : s.progress.setTotal n =
      { s.progress with loops := { frame with total := some n } :: outer } := by
    simp only [Progress.setTotal, Progress.onFrame, hl]
  refine ⟨⟨⟨?_, ⟨{ frame with total := some n }, outer, ?_, htag, rfl, hexact⟩, ho⟩, ?_⟩, rfl⟩
  · show (s.progress.setTotal n).jump = none
    rw [hp]
    exact hj
  · show (s.progress.setTotal n).loops = _
    rw [hp]
  · show (s.progress.setTotal n).signal = .quiet
    rw [hp]
    exact hs

/-- What holds when a loop comes to its end, before its frame is closed. -/
def LoopEnds (base : List Frame) (tag : LoopTag) (around : List LoopTag) (r : Except Halt α)
    (t : RunState (W × History)) : Prop :=
  (∃ total, Resting base tag around total t) ∧ ∀ halt, r = .error halt → halt.OfRun

/-- A loop that is run between its passes as it should is run as it should. -/
theorem inFrame_ready {site : LoopSite} {kind : LoopKind} {vars : List String}
    {loop : Run (W × History) α} (hs : Ready base around s)
    (h : ∀ t, Resting base ⟨kind, site.step, site.index⟩ around none t →
      Ends loop t (LoopEnds base ⟨kind, site.step, site.index⟩ around)) :
    Ends (inFrame site kind vars loop) s
      (fun r t => Ready base around t ∧ ∀ halt, r = .error halt → halt.OfRun) := by
  rw [Ends, inFrame_apply, closing_apply]
  have hr : Resting base ⟨kind, site.step, site.index⟩ around none (entered site kind vars s) :=
    ⟨⟨hs.idle.2, ⟨_, _, rfl, rfl, rfl, hs.exact⟩, hs.orderly⟩, hs.idle.1⟩
  obtain ⟨⟨total, ⟨hj, ⟨frame, outer, hl, -, -, hexact⟩, ho⟩, -⟩, hfail⟩ := h _ hr
  refine ⟨⟨⟨?_, ?_⟩, ?_, ho⟩, hfail⟩
  · show (Progress.exitLoop _).signal = .quiet
    simp only [Progress.exitLoop, hl]
  · show (Progress.exitLoop _).jump = none
    simp only [Progress.exitLoop, hl]
    exact hj
  · show Exact base around (Progress.exitLoop _).loops
    simp only [Progress.exitLoop, hl]
    exact hexact

end Run

end Runbook
