import Runbook.Proofs.Portion
import Runbook.Proofs.Run.Assembly

/-!
# Steps without steps inside

What commands, agents, log lines, bindings and adapters can do to a run: they may change the
variables and the world, and they leave the loops, the signal and the jump as they are.

* `control` is what a run goes by, with a part of the world that tools cannot reach;
* `Overlooks` are the views of a state, `control` among them, that small parts and tools leave
  alone, as `Overlooks.composesTools` says, `OverlooksTools` those that all of them leave alone that
  bind no variables;
* `steady_emit` to `steady_failAt` say so of `control` and each of the parts.
-/

namespace Runbook

/-- A halt that is no failure, or for a failure that comes up while steps run. -/
def Halt.OfRun (h : Halt) : Prop := ∀ failure, h = .failed failure → failure.ofRun = true

theorem Halt.ofRun_failed {failure : Failure} :
    (Halt.failed failure).OfRun ↔ failure.ofRun = true := by
  constructor
  · intro h
    exact h failure rfl
  · intro h f hf
    cases hf
    exact h

theorem Halt.ofRun_outOfFuel : Halt.outOfFuel.OfRun := fun _ h => by cases h

theorem Halt.ofRun_panicked : Halt.panicked.OfRun := fun _ h => by cases h

/-- Tools that leave a view of the world alone. -/
structure Tools.Keeps {W H : Type} (g : W → H) (tools : Tools W) : Prop where
  shell : ∀ command cwd limit w, g (tools.shell command cwd limit w).2 = g w
  program : ∀ program args cwd limit w, g (tools.program program args cwd limit w).2 = g w
  session : ∀ command cwd w, g (tools.session command cwd w).2 = g w
  publish : ∀ store w, g (tools.publish store w) = g w
  adapter : ∀ name call vars w, g (tools.adapter name call vars w).2 = g w

/-- Tools whose sessions come to their end. -/
def Tools.Answer {W : Type} (tools : Tools W) : Prop :=
  ∀ command cwd w, (tools.session command cwd w).1.isSome

namespace Run

open Portion

variable {W H α β : Type}

/-- What a run goes by when it is between two steps. -/
structure Control (H : Type) where
  /-- The active loops, the innermost first. -/
  loops : List Frame
  /-- What the last step asked of its loop. -/
  signal : Signal
  /-- The step to jump to. -/
  jump : Option String
  /-- What is seen of the world. -/
  world : H

/-- What a run in a state goes by. -/
def control (g : W → H) (s : RunState W) : Control H :=
  ⟨s.progress.loops, s.progress.signal, s.progress.jump, g s.world⟩

/-- A part of a run between two steps: it may change variables, records, events and the world. -/
abbrev Quiet (g : W → H) (part : Run W α) : Prop := Steady (control g) Halt.OfRun part

variable {g : W → H}

/-- What holds in the end of a part holds when its failure is a result. -/
theorem ends_attempt {part : Run W α} {s : RunState W} {Q : Except Halt α → RunState W → Prop}
    (h : Ends part s Q) : Ends (attempt part) s (fun r t =>
      match r with
      | .ok (.ok a) => Q (.ok a) t
      | .ok (.error failure) => Q (.error (.failed failure)) t
      | .error halt => Q (.error halt) t) := by
  have hs : Q (part s).1 (part s).2 := h
  rcases hp : part s with ⟨_ | a, t⟩
  · next halt =>
    rw [hp] at hs
    cases halt <;> simpa only [Ends, attempt, hp] using hs
  · rw [hp] at hs
    simpa only [Ends, attempt, hp] using hs

/-! ## Views of a run -/

/-- A view of the state that is the same whatever the events are, and whatever tools leave of a
world of which `g` is seen. -/
structure OverlooksTools {γ : Type} (g : W → H) (v : RunState W → γ) : Prop where
  events : ∀ s events, v { s with events } = v s
  world : ∀ s attachments world, g world = g s.world → v { s with attachments, world } = v s

/-- A view that is the same whatever the variables are, too. -/
structure Overlooks {γ : Type} (g : W → H) (v : RunState W → γ) : Prop
    extends OverlooksTools g v where
  vars : ∀ s vars, v { s with progress := { s.progress with vars } } = v s

theorem overlooks_control : Overlooks g (control g) where
  vars _ _ := rfl
  events _ _ := rfl
  world s attachments world h := by simp only [control, h]

section Views

variable {γ : Type} {v : RunState W → γ} {P : Halt → Prop} {env : Setting W}

/-- Small parts that bind no variables leave alone what overlooks the events. -/
theorem OverlooksTools.composesReads (hv : OverlooksTools g v)
    (hP : ∀ failure, failure.ofRun = true → P (.failed failure)) :
    ComposesReads (.ofProperty fun α (m : Run W α) => Steady v P m) where
  pure _ := steady_pure _
  bind hm hf := hm.bind hf
  fail hf := steady_throw (hP _ hf)
  currentVars := steady_get.bind fun _ => steady_pure _
  emit _ := steady_modify fun s => hv.events s _
  reportAll _ := steady_modify fun s => hv.events s _

/-- All small parts leave alone what overlooks the variables and the events. -/
theorem Overlooks.composes (hv : Overlooks g v)
    (hP : ∀ failure, failure.ofRun = true → P (.failed failure)) :
    Composes (.ofProperty fun α (m : Run W α) => Steady v P m) where
  toComposesReads := hv.composesReads hP
  changeVars _ := steady_modify fun s => hv.vars s _

theorem reach_apply (f : W → α × W) (s : RunState W) :
    reach f s = (.ok (f s.world).1, { s with world := (f s.world).2 }) := rfl

theorem OverlooksTools.reach (hv : OverlooksTools g v) {f : W → α × W} (h : ∀ w, g (f w).2 = g w) :
    Steady v P (reach f) := by
  intro s
  rw [Ends, reach_apply]
  exact ⟨hv.world s _ _ (h s.world), fun _ he => by cases he⟩

/-- A file that cannot be written is all that can go wrong with a template. -/
theorem attachPieces_failure (vars : Variables) (pieces : List Piece) :
    ∀ (store : Attachments) (failure : Failure),
      (vars.attachPieces store pieces).outcome = .error failure → failure.ofRun = true := by
  induction pieces with
  | nil => intro store failure h; simp [Variables.attachPieces] at h
  | cons piece rest ih =>
    -- what comes of the rest is passed on, whatever is put before it
    have passed : ∀ (store : Attachments) (f : List Char → List Char) (failure : Failure),
        (vars.attachPieces store rest).outcome.map f = .error failure → failure.ofRun = true := by
      intro store f failure h
      cases hr : (vars.attachPieces store rest).outcome with
      | ok cs => rw [hr] at h; simp [Except.map] at h
      | error e =>
        rw [hr] at h
        cases h
        exact ih store _ hr
    intro store failure h
    cases piece with
    | literal c => exact passed _ _ _ h
    | path path =>
      rw [Variables.attachPieces] at h
      split at h
      · cases hw : store.write path (String.ofList (vars.rendered path)) with
        | ok written => rw [hw] at h; exact passed _ _ _ h
        | error e =>
          rw [hw] at h
          cases h
          unfold Attachments.write at hw
          split at hw
          · cases hw; rfl
          · simp at hw
      · exact passed _ _ _ h

theorem OverlooksTools.attach (hv : OverlooksTools g v)
    (hP : ∀ failure, failure.ofRun = true → P (.failed failure))
    {publish : Attachments → W → W} (h : ∀ store w, g (publish store w) = g w)
    (template : String) : Steady v P (attach publish template : Run W String) := by
  refine steady_get_set (fun s => hv.world s _ _ (h _ _)) fun s =>
    ((hv.composesReads hP).reportAll _).bind fun _ => Steady.bind ?_ fun _ => steady_pure _
  cases ho : (s.progress.vars.attach s.attachments template).outcome with
  | ok cs => exact steady_pure _
  | error failure => exact steady_throw (hP _ (attachPieces_failure _ _ _ _ ho))

theorem OverlooksTools.runSession (hv : OverlooksTools g v)
    (hP : ∀ failure, failure.ofRun = true → P (.failed failure)) (h : env.tools.Keeps g)
    (hend : P .outOfFuel ∨ env.tools.Answer) (command cwd : String) :
    Steady v P (runSession env command cwd) := by
  rcases hend with hend | hanswer
  · refine Steady.bind (hv.reach (h.session command cwd)) fun r => ?_
    rcases r with _ | fault | outcome
    · exact steady_throw hend
    · exact steady_throw (hP _ (by cases fault <;> rfl))
    · exact steady_pure _
  · intro s
    have hview := hv.world s s.attachments _ (h.session command cwd s.world)
    obtain ⟨r, hr⟩ := Option.isSome_iff_exists.1 (hanswer command cwd s.world)
    rw [Ends, Run.runSession, bind_ok (reach_apply _ s), hr]
    cases r with
    | ok outcome => exact ⟨hview, fun _ he => by cases he⟩
    | error fault => exact ⟨hview, fun _ he => by cases he; exact hP _ (by cases fault <;> rfl)⟩

/-- So do tools that leave the world alone as far as it is seen. -/
theorem OverlooksTools.readsTools (hv : OverlooksTools g v)
    (hP : ∀ failure, failure.ofRun = true → P (.failed failure)) (h : env.tools.Keeps g)
    (hend : P .outOfFuel ∨ env.tools.Answer) :
    ReadsTools env env (.ofProperty fun α (m : Run W α) => Steady v P m) where
  toComposesReads := hv.composesReads hP
  config_eq := rfl
  defaults_eq := rfl
  sorter_eq := rfl
  shell _ _ _ := hv.reach (h.shell _ _ _)
  program _ _ _ _ := hv.reach (h.program _ _ _ _)
  session _ _ := hv.runSession hP h hend _ _
  attach _ := hv.attach hP h.publish _

theorem Overlooks.composesTools (hv : Overlooks g v)
    (hP : ∀ failure, failure.ofRun = true → P (.failed failure)) (h : env.tools.Keeps g)
    (hend : P .outOfFuel ∨ env.tools.Answer) :
    ComposesTools env env (.ofProperty fun α (m : Run W α) => Steady v P m) :=
  { hv.composes hP, hv.readsTools hP h hend with
    adapter := fun _ _ _ => hv.reach (h.adapter _ _ _) }

end Views

/-! ## Quiet parts -/

theorem composes_quiet : Composes (.ofProperty fun α (m : Run W α) => Quiet g m) :=
  overlooks_control.composes fun _ hf => Halt.ofRun_failed.2 hf

theorem steady_emit (event : Event) : Quiet g (emit event : Run W Unit) :=
  composes_quiet.emit event

theorem steady_reportAll (lines : List LogLine) : Quiet g (reportAll lines : Run W Unit) :=
  composes_quiet.reportAll lines

theorem steady_record (r : StepRecord) : Quiet g (record r : Run W Unit) :=
  steady_modify fun _ => rfl

theorem steady_bindVar (name : String) (value : Value) :
    Quiet g (bindVar name value : Run W Unit) :=
  composes_quiet.bindVar name value

theorem steady_currentVars : Quiet g (currentVars : Run W Variables) := composes_quiet.currentVars

theorem steady_holds (condition : String) : Quiet g (holds condition : Run W Bool) :=
  composes_quiet.holds condition

theorem steady_holdsIf (condition : Option String) : Quiet g (holdsIf condition : Run W Bool) :=
  composes_quiet.holdsIf condition

theorem steady_check (site : LoopSite) (r : Except String α) :
    Quiet g (site.check r : Run W α) :=
  composes_quiet.check site r

theorem steady_bindItem (loop : ForeachLoop) (item : Value) (index : Nat) :
    Quiet g (bindItem loop item index : Run W Unit) :=
  composes_quiet.bindItem loop item index

theorem steady_itemsOf (sorter : Sorter) (site : LoopSite) (loop : ForeachLoop) :
    Quiet g (itemsOf sorter site loop : Run W (List Value)) :=
  composes_quiet.itemsOf (fun _ => steady_throw Halt.ofRun_panicked) site loop

theorem steady_succeeded (loop : RetryLoop) (passed : Bool) :
    Quiet g (succeeded loop passed : Run W Bool) :=
  composes_quiet.succeeded loop passed

theorem steady_exhausted (site : LoopSite) (policy : OnExhausted) (kind detail : String) :
    Quiet g (exhausted site policy kind detail : Run W Unit) :=
  composes_quiet.exhausted site policy kind detail

theorem steady_skips (step : Step Unit) : Quiet g (skips step : Run W Bool) :=
  composes_quiet.skips step

theorem steady_runSet (step : Step Unit) (var : String) (value : Value) (parseJson : Bool) :
    Quiet g (runSet step var value parseJson : Run W Value) :=
  composes_quiet.runSet step var value parseJson

theorem steady_runLog (path template : String) (level : LogLevel) :
    Quiet g (runLog path template level : Run W Value) :=
  composes_quiet.runLog path template level

/-! ## Tools -/

variable {env : Setting W}

theorem composesTools_quiet (h : env.tools.Keeps g) :
    ComposesTools env env (.ofProperty fun α (m : Run W α) => Quiet g m) :=
  overlooks_control.composesTools (fun _ hf => Halt.ofRun_failed.2 hf) h (.inl Halt.ofRun_outOfFuel)

theorem steady_runBash (h : env.tools.Keeps g) (step : Step Unit) (template : String)
    (timeout : Option Nat) : Quiet g (runBash env step template timeout) :=
  (composesTools_quiet h).runBash step template timeout

theorem steady_runAgent (h : env.tools.Keeps g) (step : Step Unit) (template : String) :
    Quiet g (runAgent env step template) :=
  (composesTools_quiet h).runAgent step template

theorem steady_runPrompt (h : env.tools.Keeps g) (step : Step Unit) (template : String) :
    Quiet g (runPrompt env step template) :=
  (composesTools_quiet h).runPrompt step template

theorem steady_runAdapter (h : env.tools.Keeps g) (step : Step Unit) (path name : String)
    (params : Value) : Quiet g (runAdapter env step path name params) :=
  (composesTools_quiet h).runAdapter step path name params

/-! ## Ends of visits -/

/-- A success is noted without fail. -/
theorem steady_succeed (step : Step Unit) (path : String) (output : Value) :
    Steady (control g) (fun _ => False) (succeed step path output : Run W Unit) := by
  refine Steady.bind (steady_modify fun _ => rfl) fun _ => ?_
  split
  · exact steady_modify fun _ => rfl
  · exact steady_pure _

/-- A failure that the run does not go past is passed on as it is. -/
theorem steady_failAt (step : Step Unit) (path : String) (index : Nat) {failure : Failure}
    (h : failure.ofRun = true) : Quiet g (failAt step path index failure : Run W Unit) := by
  refine Steady.ite ?_ ?_
  · exact (steady_emit _).bind fun _ => (steady_record _).bind fun _ => steady_bindVar _ _
  · refine (steady_emit _).bind fun _ => (steady_record _).bind fun _ => ?_
    exact steady_throw (Halt.ofRun_failed.2 h)

end Run

end Runbook
