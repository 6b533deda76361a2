import Mathlib.Data.List.Chain
import Runbook.Proofs.Run.Told

/-!
# What comes after a failure

What the moment after the failure of a step has to do with it, as an invariant of histories.

* `Followed` says it of a failure and the moment after it: a variable has its message, an attempt
  failed with it, or the step around fails with it;
* `Run.Traced` says of a history that all its failures are followed, and `Run.Awaits` what may be
  noted next so that this stays true; `Run.Settled` is when anything may;
* `Run.Passive` are the parts that note nothing, and `Run.Heard` those after which a run is settled
  again or awaits that the step fails;
* `Run.composesTools_passive` and `Run.composesLoops_heard` say so of what steps are built of.
-/

namespace Runbook

open Portion

/-- The report of an attempt that failed. -/
def attemptWarning (path : String) (number attempts : Nat) (failure : Failure) : Event :=
  .note (.warn (s!"[Loop] retry '{path}' attempt {number}/{attempts} failed: " ++ failure.text))

/-- A loop of attempts that ends with this as the reason why the last attempt that failed did so, be
it that the loop comes to its end or that it runs out of attempts. -/
def EndsTelling (lastError : Option String) (result : Except Failure Value) : Prop :=
  ∃ summary : Run.RetrySummary, summary.lastError = lastError ∧
    (result = .ok summary.toValue ∨
      ∃ step, result = .error (.loopExhausted step summary.exhaustedDetail))

/-- What comes after an attempt at the steps of `outer` that failed for this reason: another thing
inside the same loops, or the end of the loop that tells the reason. -/
def TriesOn (outer : Place) (around : List LoopTag) (lastError : Option String) (next : Moment) :
    Prop :=
  next.what.around = around ∨
    ∃ result, next.what = .ended outer result ∧ EndsTelling lastError result

/-- The step stands in the body of a loop of attempts, an attempt is reported to have failed with
its failure, and the loop goes on or tells the message when it ends. -/
def Tried (events : List Event) (place : Place) (failure : Failure) (next : Moment) : Prop :=
  ∃ (outer : Place) (name step : String) (number attempts : Nat),
    place.path = Run.stepPath outer.path name ∧
      place.around = ⟨.retry, step, outer.index⟩ :: outer.around ∧
      attemptWarning outer.path number attempts failure ∈ events ∧
      TriesOn outer place.around (some failure.message) next

/-- What the moment after a failure has to do with it. -/
inductive Followed (events : List Event) (place : Place) (failure : Failure) (next : Moment) :
    Prop where
  /-- A variable has its message. -/
  | noted (step : failure.isStepFailure = true)
    (var : next.progress.vars.find? Run.lastErrorVar = some (.string failure.message))
  /-- An attempt failed with it. -/
  | tried (step : failure.isStepFailure = true) (attempt : Tried events place failure next)
  /-- The step around fails with it. -/
  | passedOn (outer : Place) (inside : ∃ name, place.path = Run.stepPath outer.path name)
    (what : next.what = .ended outer (.error failure))
  /-- The step around fails in a way in which sound steps do not fail. -/
  | astray (outer : Place) (other : Failure) (what : next.what = .ended outer (.error other))
    (stray : other.ofRun = false)

theorem Followed.mono {events events' : List Event} {place : Place} {failure : Failure}
    {next : Moment} (h : Followed events place failure next) (hle : events ⊆ events') :
    Followed events' place failure next := by
  cases h with
  | noted step var => exact .noted step var
  | tried step attempt =>
    obtain ⟨outer, name, loop, number, attempts, hpath, haround, hmem, hnext⟩ := attempt
    exact .tried step ⟨outer, name, loop, number, attempts, hpath, haround, hle hmem, hnext⟩
  | passedOn outer inside what => exact .passedOn outer inside what
  | astray outer other what stray => exact .astray outer other what stray

/-- Failures of steps come up while steps run. -/
theorem Failure.ofRun_of_isStepFailure {failure : Failure} (h : failure.isStepFailure = true) :
    failure.ofRun = true := by
  cases failure <;> first | rfl | cases h

namespace Run

variable {W α β : Type}

/-! ## States -/

/-- Each failure in the history is followed, unless it is the last moment. -/
def Traced (s : RunState (W × History)) : Prop :=
  s.world.2.IsChain fun next m => ∀ place failure,
    m.what = .ended place (.error failure) → Followed s.events place failure next

/-- Whatever satisfies `Q` may be noted next: if the last moment is a failure, it is followed by
that. -/
structure Awaits (Q : Moment → Prop) (s : RunState (W × History)) : Prop where
  traced : Traced s
  next : ∀ m ∈ s.world.2.head?, ∀ place failure, m.what = .ended place (.error failure) →
    ∀ next, Q next → Followed s.events place failure next

/-- Anything may be noted next. -/
abbrev Settled (s : RunState (W × History)) : Prop := Awaits (fun _ => True) s

/-- The step at `outer` may fail with this failure next. -/
abbrev Fails (outer : Place) (failure : Failure) (s : RunState (W × History)) : Prop :=
  Awaits (fun next => next.what = .ended outer (.error failure)) s

/-- A state with the same history, and with all that was reported before. -/
structure Later (s t : RunState (W × History)) : Prop where
  history : t.world.2 = s.world.2
  events : s.events ⊆ t.events

variable {s t u : RunState (W × History)} {Q Q' : Moment → Prop}

theorem Awaits.mono (h : Awaits Q s) (hQ : ∀ next, Q' next → Q next) : Awaits Q' s where
  traced := h.traced
  next m hm place failure hwhat next hnext := h.next m hm place failure hwhat next (hQ next hnext)

theorem Later.trans (h : Later s t) (h' : Later t u) : Later s u where
  history := h'.history.trans h.history
  events := List.Subset.trans h.events h'.events

theorem Traced.later (h : Traced s) (hl : Later s t) : Traced t := by
  unfold Traced at h ⊢
  rw [hl.history]
  exact h.imp fun next m hm place failure hwhat => (hm place failure hwhat).mono hl.events

theorem Awaits.later (h : Awaits Q s) (hl : Later s t) : Awaits Q t where
  traced := h.traced.later hl
  next m hm place failure hwhat next hnext := by
    rw [hl.history] at hm
    exact (h.next m hm place failure hwhat next hnext).mono hl.events

/-- What follows the failure that is the last moment may be noted next. -/
theorem Traced.awaits {place : Place} {failure : Failure} {progress : Progress} {earlier : History}
    (h : Traced s) (heq : s.world.2 = ⟨.ended place (.error failure), progress⟩ :: earlier)
    (hQ : ∀ next, Q next → Followed s.events place failure next) : Awaits Q s where
  traced := h
  next m hm other failure' hwhat next hnext := by
    rw [heq] at hm
    cases hm
    cases hwhat
    exact hQ next hnext

/-- The state after something is noted. -/
def noted (what : Happening) (s : RunState (W × History)) : RunState (W × History) :=
  { s with world := (s.world.1, ⟨what, s.progress⟩ :: s.world.2) }

theorem Awaits.traced_noted {what : Happening} (h : Awaits Q s) (hQ : Q ⟨what, s.progress⟩) :
    Traced (noted what s) :=
  List.isChain_cons.2 ⟨fun m hm place failure hwhat => h.next m hm place failure hwhat _ hQ,
    h.traced⟩

/-- What is not a failure settles what it follows. -/
theorem Awaits.settled_noted {what : Happening} (h : Awaits Q s) (hQ : Q ⟨what, s.progress⟩)
    (hw : ∀ place failure, what ≠ .ended place (.error failure)) : Settled (noted what s) where
  traced := h.traced_noted hQ
  next m hm place failure hwhat := by
    cases hm
    exact absurd hwhat (hw place failure)

/-! ## Ends of parts -/

/-- What holds when a part has ended: `I` if it has a result, and `E` if it failed. -/
def Closes (I : α → RunState (W × History) → Prop) (E : Failure → RunState (W × History) → Prop)
    (r : Except Halt α) (t : RunState (W × History)) : Prop :=
  match r with
  | .ok a => I a t
  | .error (.failed failure) => E failure t
  | .error .outOfFuel | .error .panicked => Traced t

/-- A part of the step at `outer` after which `Q` of its result may be noted next, or the step may
fail. -/
abbrev PartEnds (outer : Place) (Q : α → Moment → Prop) :
    Except Halt α → RunState (W × History) → Prop :=
  Closes (fun a => Awaits (Q a)) (Fails outer)

variable {outer : Place} {R : α → Moment → Prop} {I : α → RunState (W × History) → Prop}
  {E : Failure → RunState (W × History) → Prop} {r : Except Halt α}

/-- A part that ends in a settled state may come to any end. -/
theorem Awaits.partEnds (h : Settled s) : PartEnds outer R r s := by
  match r with
  | .ok _ => exact h.mono fun _ _ => trivial
  | .error (.failed _) => exact h.mono fun _ _ => trivial
  | .error .outOfFuel | .error .panicked => exact h.traced

theorem Closes.imp {I' : α → RunState (W × History) → Prop}
    {E' : Failure → RunState (W × History) → Prop} (h : Closes I E r t) (hI : ∀ a, I a t → I' a t)
    (hE : ∀ failure, E failure t → E' failure t) : Closes I' E' r t := by
  match r, h with
  | .ok a, h => exact hI a h
  | .error (.failed failure), h => exact hE failure h
  | .error .outOfFuel, h | .error .panicked, h => exact h

theorem Closes.traced (h : Closes I E r t) (hI : ∀ a, I a t → Traced t)
    (hE : ∀ failure, E failure t → Traced t) : Traced t := by
  match r, h with
  | .ok a, h => exact hI a h
  | .error (.failed failure), h => exact hE failure h
  | .error .outOfFuel, h | .error .panicked, h => exact h

theorem Closes.later (h : PartEnds outer R r s) (hl : Later s t) : PartEnds outer R r t := by
  match r, h with
  | .ok _, h => exact Awaits.later h hl
  | .error (.failed _), h => exact Awaits.later h hl
  | .error .outOfFuel, h | .error .panicked, h => exact Traced.later h hl

/-- What follows a part that has a result need only be looked at after that. -/
theorem Closes.bind {m : Run (W × History) α} {f : α → Run (W × History) β}
    {J : β → RunState (W × History) → Prop} (h : Ends m s (Closes I E))
    (hf : ∀ a t, I a t → Ends (f a) t (Closes J E)) : Ends (m >>= f) s (Closes J E) := by
  refine Ends.bind h hf fun halt t ht => ?_
  match halt, ht with
  | .failed _, ht => exact ht
  | .outOfFuel, ht | .panicked, ht => exact ht

/-- A part whose failure is a result does not fail. -/
theorem Closes.attempt {m : Run (W × History) α} {E' : Failure → RunState (W × History) → Prop}
    (h : Ends m s (Closes I E)) : Ends (attempt m) s (Closes (fun r t =>
      match r with
      | .ok a => I a t
      | .error failure => E failure t) E') := by
  refine Ends.mono ((ends_attempt h).and (attempt_halts m s)) ?_
  rintro r t ⟨ht, hfailed⟩
  match r, ht with
  | .ok (.ok _), ht => exact ht
  | .ok (.error _), ht => exact ht
  | .error .outOfFuel, ht | .error .panicked, ht => exact ht
  | .error (.failed _), _ => exact absurd rfl (hfailed _)

theorem ends_note {what : Happening} {f : Unit → Run (W × History) α}
    {F : Except Halt α → RunState (W × History) → Prop} (h : Ends (f ()) (noted what s) F) :
    Ends (note what >>= f) s F := h

/-! ## Parts that note nothing -/

/-- A part that notes nothing and takes nothing back that was reported, and fails only in ways that
`P` allows. -/
def Passive (P : Halt → Prop) (m : Run (W × History) α) : Prop :=
  ∀ s, Ends m s (fun r t => Later s t ∧ ∀ halt, r = .error halt → P halt)

variable {P : Halt → Prop} {m : Run (W × History) α}

theorem later_of_eq (hw : t.world.2 = s.world.2) (he : t.events = s.events) : Later s t :=
  ⟨hw, he ▸ List.Subset.refl _⟩

theorem passive_pure (a : α) : Passive P (pure a : Run (W × History) α) :=
  fun _ => ⟨later_of_eq rfl rfl, fun _ he => by cases he⟩

theorem passive_throw {halt : Halt} (h : P halt) : Passive P (throw halt : Run (W × History) α) :=
  fun _ => ⟨later_of_eq rfl rfl, fun _ he => by cases he; exact h⟩

theorem passive_progress : Passive P (progress : Run (W × History) Progress) :=
  fun _ => ⟨later_of_eq rfl rfl, fun _ he => by cases he⟩

theorem passive_update (f : Progress → Progress) :
    Passive P (update f : Run (W × History) Unit) :=
  fun _ => ⟨later_of_eq rfl rfl, fun _ he => by cases he⟩

theorem passive_record (r : StepRecord) : Passive P (record r : Run (W × History) Unit) :=
  fun _ => ⟨later_of_eq rfl rfl, fun _ he => by cases he⟩

theorem passive_emit (event : Event) : Passive P (emit event : Run (W × History) Unit) :=
  fun _ => ⟨⟨rfl, List.subset_cons_self _ _⟩, fun _ he => by cases he⟩

theorem passive_reportAll (lines : List LogLine) :
    Passive P (reportAll lines : Run (W × History) Unit) :=
  fun _ => ⟨⟨rfl, List.subset_append_right _ _⟩, fun _ he => by cases he⟩

theorem passive_reach {f : W × History → α × (W × History)} (h : ∀ w, (f w).2.2 = w.2) :
    Passive P (reach f) :=
  fun s => ⟨later_of_eq (h s.world) rfl, fun _ he => by cases he⟩

theorem Passive.bind {f : α → Run (W × History) β} (hm : Passive P m) (hf : ∀ a, Passive P (f a)) :
    Passive P (m >>= f) := by
  intro s
  refine Ends.bind (hm s) ?_ ?_
  · rintro a t ⟨ht, -⟩
    refine Ends.mono (hf a t) ?_
    rintro r u ⟨hu, he⟩
    exact ⟨ht.trans hu, he⟩
  · rintro halt t ⟨ht, he⟩
    exact ⟨ht, fun _ h => by cases h; exact he halt rfl⟩

theorem passive_takeSignal : Passive P (takeSignal : Run (W × History) Signal) :=
  passive_progress.bind fun _ => (passive_update _).bind fun _ => passive_pure _

theorem passive_holds (condition : String) :
    Passive P (holds condition : Run (W × History) Bool) :=
  (passive_progress.bind fun p => passive_pure p.vars).bind fun _ =>
    (passive_reportAll _).bind fun _ => passive_pure _

/-- The small parts of actions note nothing. -/
theorem composes_passive :
    Composes (.ofProperty fun α (m : Run (W × History) α) => Passive (fun _ => True) m) where
  pure := passive_pure
  bind := Passive.bind
  fail _ := passive_throw trivial
  currentVars := passive_progress.bind fun p => passive_pure p.vars
  changeVars _ := passive_update _
  emit := passive_emit
  reportAll := passive_reportAll

theorem passive_attach (env : Setting W) (template : String) :
    Passive (fun _ => True) (attach env.watched.tools.publish template) := by
  intro s
  let attached := s.progress.vars.attach s.attachments template
  -- the files in place, what remains is like any other small part
  let placed : RunState (W × History) := { s with
    attachments := attached.store
    world := env.watched.tools.publish attached.store s.world }
  have hplaced : Later s placed := later_of_eq rfl rfl
  have hrest : Passive (fun _ => True)
      (do
        reportAll attached.log
        return String.ofList (← ofExcept attached.outcome) : Run (W × History) String) := by
    refine (passive_reportAll _).bind fun _ => Passive.bind ?_ fun _ => passive_pure _
    cases attached.outcome with
    | ok cs => exact passive_pure cs
    | error failure => exact passive_throw trivial
  obtain ⟨hlater, he⟩ := hrest placed
  exact ⟨hplaced.trans hlater, he⟩

theorem passive_runSession (env : Setting W) (command cwd : String) :
    Passive (fun _ => True) (runSession env.watched command cwd) := by
  refine (passive_reach fun _ => rfl).bind fun r => ?_
  match r with
  | some (.ok outcome) => exact passive_pure outcome
  | some (.error fault) => exact passive_throw trivial
  | none => exact passive_throw trivial

/-- Nor do tools. -/
theorem composesTools_passive (env : Setting W) : ComposesTools env.watched env.watched
    (.ofProperty fun α (m : Run (W × History) α) => Passive (fun _ => True) m) where
  toComposes := composes_passive
  config_eq := rfl
  defaults_eq := rfl
  sorter_eq := rfl
  shell _ _ _ := passive_reach fun _ => rfl
  program _ _ _ _ := passive_reach fun _ => rfl
  session := passive_runSession env
  adapter _ _ _ := passive_reach fun _ => rfl
  attach := passive_attach env

/-- A part that notes nothing and cannot fail leaves it open what comes next. -/
theorem Passive.keeps (h : Passive (fun _ => False) m) (hs : Awaits Q s) :
    Ends m s (Closes (fun _ => Awaits Q) E) := by
  refine Ends.mono (h s) ?_
  rintro r t ⟨hl, he⟩
  cases r with
  | ok _ => exact Awaits.later hs hl
  | error halt => exact (he halt rfl).elim

/-! ## Parts of steps -/

/-- A part of the step at `outer` that begins in a settled state, and ends in one unless it
fails. -/
def Heard (outer : Place) (m : Run (W × History) α) : Prop :=
  ∀ s, Settled s → Ends m s (PartEnds outer fun _ _ => True)

theorem Passive.heard (h : Passive P m) : Heard outer m :=
  fun s hs => Ends.mono (h s) fun _ _ ⟨hl, _⟩ => Awaits.partEnds (hs.later hl)

theorem Heard.bind {f : α → Run (W × History) β} (hm : Heard outer m)
    (hf : ∀ a, Heard outer (f a)) : Heard outer (m >>= f) :=
  fun s hs => Closes.bind (hm s hs) fun a t ht => hf a t ht

theorem Heard.signalled (h : Heard outer m) : Heard outer (Run.signalled m) :=
  h.bind fun _ => Passive.heard (P := fun _ => True) <|
    passive_takeSignal.bind fun _ => passive_pure _

theorem ends_closing {close : Progress → Progress} (h : Ends m s (PartEnds outer R)) :
    Ends (closing m close) s (PartEnds outer R) := by
  rw [Ends, closing_apply]
  exact Closes.later h (later_of_eq rfl rfl)

theorem Heard.closing {close : Progress → Progress} (h : Heard outer m) :
    Heard outer (closing m close) :=
  fun s hs => ends_closing (h s hs)

/-- The end of a part that is settled is whatever may be noted next. -/
theorem Heard.acts (h : Heard outer m) (hs : Settled s) : Ends m s (PartEnds outer R) :=
  Ends.mono (h s hs) fun _ _ ht => Closes.imp ht (fun _ ht => ht.mono fun _ _ => trivial)
    fun _ => id

/-- A loop ends as it does between its passes. -/
theorem ends_inFrame {site : LoopSite} {kind : LoopKind} {names : List String} (hs : Settled s)
    (h : ∀ t, Settled t → Ends m t (PartEnds outer R)) :
    Ends (inFrame site kind names m) s (PartEnds outer R) := by
  rw [Ends, inFrame_apply]
  exact ends_closing (h _ (hs.later (later_of_eq rfl rfl)))

/-- The small parts of actions do so, and frames if what is inside them does. -/
theorem composesLoops_heard :
    ComposesLoops (.ofProperty fun α (m : Run (W × History) α) => Heard outer m) where
  pure a := (composes_passive.pure a).heard
  bind := Heard.bind
  fail hf := (composes_passive.fail hf).heard
  currentVars := composes_passive.currentVars.heard
  changeVars f := (composes_passive.changeVars f).heard
  emit event := (composes_passive.emit event).heard
  reportAll lines := (composes_passive.reportAll lines).heard
  setCursor _ := (passive_update (P := fun _ => True) _).heard
  setTotal _ := (passive_update (P := fun _ => True) _).heard
  inFrame _ _ _ h := fun _ hs => ends_inFrame hs h

end Run

end Runbook
