import Runbook.Proofs.Run.History
import Runbook.Proofs.Workflow.Valid

/-!
# Visits as trees

A step is visited, and inside the visit the steps that lie inside the step are, pass by pass: the
visits of a run are trees.

* `Visit` is the visit of a step, with those inside it;
* `Visit.records` and `Visit.happenings` are what it leaves in the log and in the history, told in
  one way around the tree (`Visit.around`);
* `Visit.Of` says that a visit, with all those inside it, is as the steps of a list are visited:
  each is at the place of its step, and none comes after one that halts;
* `Nested` are the visits inside visits, and `Carried` says how far a halt gets from there, as
  `Nested.carried` says of every visit that halts.
-/

namespace Runbook

/-- The steps that lie inside an action. -/
def Action.steps (action : Action) : Block := action.body?.getD []

/-- Whether a run goes on after a step that halts. -/
def Step.goesPast {T : Type} (step : Step T) : Halt → Bool
  | .failed failure => failure.isStepFailure && step.onError = .goOn
  | .outOfFuel | .panicked => false

/-- Whether an action goes on after a pass that halts. -/
def Action.absorbs : Action → Halt → Bool
  | .retry _ _, .failed failure => failure.isStepFailure
  | _, _ => false

/-- The visit of a step. -/
inductive Visit where
  /-- The step was skipped. -/
  | skipped (step : Step Action) (place : Place)
  /-- The step was dispatched; the passes are those through the steps inside it, and the result is
  that of the dispatch. -/
  | dispatched (step : Step Action) (place : Place) (passes : List (List Visit))
    (result : Except Halt Value)

namespace Visit

/-- The step that is visited. -/
def step : Visit → Step Action
  | skipped step _ | dispatched step _ _ _ => step

/-- Where the step stands. -/
def place : Visit → Place
  | skipped _ place | dispatched _ place _ _ => place

/-- The passes through the steps inside the step. -/
def passes : Visit → List (List Visit)
  | skipped _ _ => []
  | dispatched _ _ passes _ => passes

/-- The result of the dispatch, if there was one. -/
def result? : Visit → Option (Except Halt Value)
  | skipped _ _ => none
  | dispatched _ _ _ result => some result

/-! ## Around a tree -/

section Around

variable {α : Type} (enter leave : Visit → List α)

mutual

/-- What there is around a tree: what comes with entering a visit, all around the visits inside it,
in order, and what comes with leaving it. -/
def around : Visit → List α
  | skipped step place => enter (skipped step place) ++ leave (skipped step place)
  | dispatched step place passes result =>
    enter (dispatched step place passes result) ++ aroundPasses passes ++
      leave (dispatched step place passes result)

/-- What there is around the trees of a pass. -/
def aroundAll : List Visit → List α
  | [] => []
  | v :: rest => around v ++ aroundAll rest

/-- What there is around the trees of passes. -/
def aroundPasses : List (List Visit) → List α
  | [] => []
  | pass :: rest => aroundAll pass ++ aroundPasses rest

end

theorem aroundAll_eq (visits : List Visit) :
    aroundAll enter leave visits = visits.flatMap (around enter leave) := by
  induction visits with
  | nil => rfl
  | cons v rest ih => rw [aroundAll, ih, List.flatMap_cons]

theorem aroundPasses_eq (passes : List (List Visit)) :
    aroundPasses enter leave passes =
      passes.flatMap fun pass => pass.flatMap (around enter leave) := by
  induction passes with
  | nil => rfl
  | cons pass rest ih => rw [aroundPasses, ih, aroundAll_eq, List.flatMap_cons]

theorem around_eq (v : Visit) :
    v.around enter leave =
      enter v ++ (v.passes.flatMap fun pass => pass.flatMap (around enter leave)) ++ leave v := by
  cases v with
  | skipped step place => rw [around, passes, List.flatMap_nil, List.append_nil]
  | dispatched step place passes result => rw [around, aroundPasses_eq]; rfl

end Around

/-- The record of a visit that came to its end. -/
def own? : Visit → Option StepRecord
  | skipped _ place => some (.skip place.path)
  | dispatched _ place _ (.ok output) => some (.success place.path output)
  | dispatched step place _ (.error (.failed failure)) =>
    some (.failure place.path
      (if step.goesPast (.failed failure) then failure.message else failure.text))
  | dispatched _ _ _ (.error .outOfFuel) | dispatched _ _ _ (.error .panicked) => none

/-- The records of a visit and of those inside it, each after those inside it. -/
def records : Visit → List StepRecord := around (fun _ => []) fun v => v.own?.toList

/-- What happens when a visit begins. -/
def begins : Visit → List Happening
  | skipped _ place => [.turn place]
  | dispatched _ place _ _ => [.turn place, .dispatched place]

/-- What happens when a visit has ended. -/
def ends : Visit → List Happening
  | skipped _ _ => []
  | dispatched _ place _ (.ok output) => [.ended place (.ok output)]
  | dispatched _ place _ (.error (.failed failure)) => [.ended place (.error failure)]
  | dispatched _ _ _ (.error .outOfFuel) | dispatched _ _ _ (.error .panicked) => []

/-- What happens in a visit and in those inside it. -/
def happenings : Visit → List Happening := around begins ends

theorem records_eq (v : Visit) :
    v.records = (v.passes.flatMap fun pass => pass.flatMap records) ++ v.own?.toList := by
  unfold records
  rw [around_eq, List.nil_append]

theorem happenings_eq (v : Visit) :
    v.happenings = v.begins ++ (v.passes.flatMap fun pass => pass.flatMap happenings) ++ v.ends :=
  around_eq begins ends v

/-! ## Halts -/

/-- What a visit halts the run with, if it does. -/
def halt? : Visit → Option Halt
  | dispatched step _ _ (.error halt) => if step.goesPast halt then none else some halt
  | dispatched _ _ _ (.ok _) | skipped _ _ => none

/-- What a pass of an action halts it with, if it does. -/
def passHalt? (action : Action) (pass : List Visit) : Option Halt :=
  (pass.getLast?.bind halt?).filter fun halt => !action.absorbs halt

end Visit

/-- Nothing comes after what halts, and what halts is the end. -/
def HaltsLast {α β : Type} (halt? : β → Option Halt) (end_ : Except Halt α) : List β → Prop
  | [] => True
  | x :: rest => (∀ halt, halt? x = some halt → rest = [] ∧ end_ = .error halt) ∧
      HaltsLast halt? end_ rest

section HaltsLast

variable {α β γ : Type} {halt? : β → Option Halt} {l l' : List β}

theorem HaltsLast.append {a : α} {end_ : Except Halt γ}
    (h : HaltsLast halt? (.ok a : Except Halt α) l) (h' : HaltsLast halt? end_ l') :
    HaltsLast halt? end_ (l ++ l') := by
  induction l with
  | nil => exact h'
  | cons x rest ih => exact ⟨fun halt hx => absurd (h.1 halt hx).2 (by simp), ih h.2⟩

theorem HaltsLast.error {halt : Halt} (h : HaltsLast halt? (.error halt : Except Halt α) l) :
    HaltsLast halt? (.error halt : Except Halt γ) l := by
  induction l with
  | nil => trivial
  | cons x rest ih =>
    refine ⟨fun halt' hx => ?_, ih h.2⟩
    obtain ⟨hrest, he⟩ := h.1 halt' hx
    cases he
    exact ⟨hrest, rfl⟩

theorem HaltsLast.getLast?_eq {end_ : Except Halt α} (h : HaltsLast halt? end_ l) {x : β}
    (hx : x ∈ l) {halt : Halt} (hh : halt? x = some halt) :
    l.getLast? = some x ∧ end_ = .error halt := by
  induction l with
  | nil => exact absurd hx List.not_mem_nil
  | cons y rest ih =>
    rcases List.mem_cons.1 hx with rfl | hx
    · obtain ⟨rfl, he⟩ := h.1 halt hh
      exact ⟨rfl, he⟩
    · obtain ⟨hlast, he⟩ := ih h.2 hx
      refine ⟨?_, he⟩
      rw [List.getLast?_cons, hlast]
      rfl

end HaltsLast

/-! ## Visits of steps -/

/-- A visit of a step of a list at its place, with those inside it. -/
inductive Visit.Of : Block → (scope : String) → Visit → Prop where
  /-- A step that is skipped. -/
  | skipped {block : Block} {scope : String} {step : Step Action} {place : Place}
    (step_eq : block[place.index]? = some step) (path_eq : place.path = Run.stepPath scope step.name) :
    Of block scope (.skipped step place)
  /-- A step that is dispatched.  In a pass nothing comes after a visit that halts, and no pass after
  one that halts the step. -/
  | dispatched {block : Block} {scope : String} {step : Step Action} {place : Place}
    {passes : List (List Visit)} {result : Except Halt Value}
    (step_eq : block[place.index]? = some step) (path_eq : place.path = Run.stepPath scope step.name)
    (inside : ∀ pass ∈ passes, ∀ v ∈ pass, Of step.tool.steps place.path v)
    (last : ∀ pass ∈ passes, ∃ end_ : Except Halt Unit, HaltsLast Visit.halt? end_ pass)
    (halts : HaltsLast (Visit.passHalt? step.tool) result passes) :
    Of block scope (.dispatched step place passes result)

namespace Visit

variable {block : Block} {scope : String} {v : Visit}

theorem Of.step_eq (h : v.Of block scope) : block[v.place.index]? = some v.step := by
  cases h with
  | skipped step_eq _ => exact step_eq
  | dispatched step_eq _ _ _ _ => exact step_eq

theorem Of.path_eq (h : v.Of block scope) : v.place.path = Run.stepPath scope v.step.name := by
  cases h with
  | skipped _ path_eq => exact path_eq
  | dispatched _ path_eq _ _ _ => exact path_eq

/-- A pass through the steps of a list: in it nothing comes after a visit that halts. -/
structure Pass (block : Block) (scope : String) (pass : List Visit) : Prop where
  of : ∀ v ∈ pass, v.Of block scope
  last : ∃ end_ : Except Halt Unit, HaltsLast halt? end_ pass

theorem Of.inside (h : v.Of block scope) {pass : List Visit} (hpass : pass ∈ v.passes) :
    Pass v.step.tool.steps v.place.path pass := by
  cases h with
  | skipped _ _ => exact absurd hpass List.not_mem_nil
  | dispatched _ _ inside last _ => exact ⟨inside pass hpass, last pass hpass⟩

theorem of_dispatched {step : Step Action} {place : Place} {passes : List (List Visit)}
    {result : Except Halt Value} (step_eq : block[place.index]? = some step)
    (path_eq : place.path = Run.stepPath scope step.name)
    (h : ∀ pass ∈ passes, Pass step.tool.steps place.path pass)
    (halts : HaltsLast (passHalt? step.tool) result passes) :
    (dispatched step place passes result).Of block scope :=
  .dispatched step_eq path_eq (fun pass hpass => (h pass hpass).of)
    (fun pass hpass => (h pass hpass).last) halts

/-- A pass that halts its step is the last one, and the halt is the result. -/
theorem Of.passHalt (h : v.Of block scope) {pass : List Visit} (hpass : pass ∈ v.passes)
    {halt : Halt} (hh : passHalt? v.step.tool pass = some halt) :
    v.passes.getLast? = some pass ∧ v.result? = some (.error halt) := by
  cases h with
  | skipped _ _ => exact absurd hpass List.not_mem_nil
  | dispatched _ _ _ _ halts =>
    obtain ⟨hlast, he⟩ := halts.getLast?_eq hpass hh
    exact ⟨hlast, congrArg some he⟩

theorem halt?_eq_some_iff {halt : Halt} :
    v.halt? = some halt ↔ v.result? = some (.error halt) ∧ v.step.goesPast halt = false := by
  cases v with
  | skipped step place => simp [halt?, result?]
  | dispatched step place passes result =>
    cases result with
    | ok output => simp [halt?, result?]
    | error other =>
      show (if step.goesPast other then none else some other) = some halt ↔
        some (Except.error other) = some (Except.error halt) ∧ step.goesPast halt = false
      constructor
      · intro h
        split at h
        · cases h
        · next hp =>
          cases h
          exact ⟨rfl, Bool.eq_false_iff.2 hp⟩
      · rintro ⟨hr, hp⟩
        cases hr
        rw [hp]
        rfl

theorem passHalt?_eq_some {action : Action} {pass : List Visit} {halt : Halt}
    (hlast : pass.getLast? = some v) (hh : v.halt? = some halt)
    (ha : action.absorbs halt = false) : passHalt? action pass = some halt := by
  rw [passHalt?, hlast, Option.bind_some, hh, Option.filter_some, ha]
  rfl

end Visit

/-! ## How far halts get -/

/-- The visits inside visits, each with those around it, the innermost first. -/
inductive Nested (visits : List Visit) : (outer : List Visit) → Visit → Prop where
  /-- One of the visits themselves. -/
  | top {v : Visit} (mem : v ∈ visits) : Nested visits [] v
  /-- One inside another. -/
  | inside {outer : List Visit} {e v : Visit} {pass : List Visit} (around : Nested visits outer e)
    (pass_mem : pass ∈ e.passes) (mem : v ∈ pass) : Nested visits (e :: outer) v

/-- A halt of a visit ends all that is around the visit, from the inside out: the pass that the
visit is in, which may be absorbed; then the step around it, with the same halt, which the run may
go past; and so on until it comes out with `out`. -/
def Carried (halt : Halt) (out : Visit → Prop) : Visit → (outer : List Visit) → Prop
  | v, [] => out v
  | v, e :: outer => ∃ pass ∈ e.passes, pass.getLast? = some v ∧
      (e.step.tool.absorbs halt = true ∨
        e.passes.getLast? = some pass ∧ e.result? = some (.error halt) ∧
          (e.step.goesPast halt = true ∨ Carried halt out e outer))

variable {visits outer : List Visit} {block : Block} {scope : String} {v : Visit}

/-- All visits inside visits of the steps of a list are visits of steps inside that list. -/
theorem Nested.of {root : Block} {scope : String} (h : Nested visits outer v)
    (hof : ∀ v ∈ visits, v.Of root scope) :
    ∃ inLoop block scope', root.Has inLoop block ∧ v.Of block scope' := by
  induction h with
  | top mem => exact ⟨false, root, scope, .root, hof _ mem⟩
  | @inside _ e v _ _ pass_mem mem ih =>
    obtain ⟨_, block, _, hhas, he⟩ := ih
    have hv := (he.inside pass_mem).of v mem
    cases hb : e.step.tool.body? with
    | none =>
      -- there are no visits inside a step without steps inside
      have hnone := hv.step_eq
      rw [Action.steps, hb] at hnone
      cases hnone
    | some body =>
      obtain ⟨inLoop, hinside⟩ := hhas.inside (List.mem_of_getElem? he.step_eq) hb
      rw [Action.steps, hb] at hv
      exact ⟨inLoop, body, _, hinside, hv⟩

/-- Every halt is carried until it is absorbed or gone past. -/
theorem Nested.carried {end_ : Except Halt Unit} (h : Nested visits outer v)
    (hof : ∀ v ∈ visits, v.Of block scope) (hlast : HaltsLast Visit.halt? end_ visits) {halt : Halt}
    (hh : v.halt? = some halt) :
    Carried halt (fun v => visits.getLast? = some v ∧ end_ = .error halt) v outer := by
  induction h with
  | top mem => exact hlast.getLast?_eq mem hh
  | @inside outer e v pass around pass_mem mem ih =>
    obtain ⟨_, _, _, _, he⟩ := around.of hof
    obtain ⟨_, hpass⟩ := (he.inside pass_mem).last
    obtain ⟨hv, -⟩ := hpass.getLast?_eq mem hh
    -- the halt is that of the pass, then that of the step around it
    refine ⟨pass, pass_mem, hv, ?_⟩
    by_cases ha : e.step.tool.absorbs halt = true
    · exact .inl ha
    obtain ⟨hpasses, hresult⟩ :=
      he.passHalt pass_mem (Visit.passHalt?_eq_some hv hh (Bool.eq_false_iff.2 ha))
    refine .inr ⟨hpasses, hresult, ?_⟩
    by_cases hp : e.step.goesPast halt = true
    · exact .inl hp
    · exact .inr (ih (Visit.halt?_eq_some_iff.2 ⟨hresult, Bool.eq_false_iff.2 hp⟩))

theorem Carried.mono {halt : Halt} {out out' : Visit → Prop} (h : Carried halt out v outer)
    (ho : ∀ v, out v → out' v) : Carried halt out' v outer := by
  induction outer generalizing v with
  | nil => exact ho v h
  | cons e outer ih =>
    obtain ⟨pass, hpass, hlast, hend⟩ := h
    refine ⟨pass, hpass, hlast, hend.imp_right ?_⟩
    rintro ⟨hpasses, hresult, hout⟩
    exact ⟨hpasses, hresult, hout.imp_right ih⟩

/-- A halt that nothing absorbs or goes past comes out. -/
theorem Carried.out {halt : Halt} {out : Visit → Prop} (h : Carried halt out v outer)
    (ha : ∀ action : Action, action.absorbs halt = false)
    (hp : ∀ step : Step Action, step.goesPast halt = false) : ∃ v, out v := by
  induction outer generalizing v with
  | nil => exact ⟨v, h⟩
  | cons e outer ih =>
    obtain ⟨_, _, _, habsorbs | ⟨_, _, hpast | hcarried⟩⟩ := h
    · rw [ha] at habsorbs
      cases habsorbs
    · rw [hp] at hpast
      cases hpast
    · exact ih hcarried

end Runbook
