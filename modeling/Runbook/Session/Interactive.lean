import Runbook.Session.Pane
import Runbook.Session.Outcome
import Runbook.Text.Blank

/-!
# Interactive sessions

A command runs in a pane until its program reports that it is done, or ends, or the pane stays the
same for a while.  Then the text of the pane is the output, and the pane is closed.

* `Look` is what one look at a pane shows, `Watcher.see` takes one in, and either goes on or has a
  verdict, and `watch` takes looks in until there is one;
* `Patrol` is how far the task has come that watches a pane, and `Patrol.step` what it does next;
* `wait` is the race between this task and the signal of the pane, either of which ends it;
* `linger` is what the task still does when it was called off;
* `settle` takes the text of a pane and closes it, and `runInteractive` is a whole session.
-/

namespace Runbook.Session

/-! ## Watching a pane -/

/-- What one look at a pane shows. -/
inductive Look where
  /-- The look failed. -/
  | failed (fault : Fault)
  /-- The program in the pane has ended. -/
  | dead
  /-- The text of the pane. -/
  | text (text : String)
  deriving DecidableEq, Repr

/-- What has been seen. -/
structure Watcher where
  /-- The last text. -/
  last : Option String
  /-- When it was seen first. -/
  since : Nat
  deriving DecidableEq, Repr

namespace Watcher

/-- Before the first look, at a time. -/
def start (now : Nat) : Watcher := ⟨none, now⟩

/-- Takes a look in, at a time; a verdict is a fault or the way the session was over. -/
def see (quiet : Nat) (w : Watcher) (now : Nat) :
    Look → Except (Except Fault Completion) Watcher
  | .failed fault => .error (.error fault)
  | .dead => .error (.ok .exited)
  | .text text =>
    if w.last = some text then
      if quiet ≤ now - w.since then .error (.ok .idle) else .ok w
    else .ok ⟨some text, now⟩

end Watcher

/-- Takes looks in until there is a verdict. -/
def watch (quiet : Nat) : Watcher → List (Nat × Look) → Option (Except Fault Completion)
  | _, [] => none
  | w, (now, look) :: rest =>
    match w.see quiet now look with
    | .error verdict => some verdict
    | .ok w => watch quiet w rest

/-! ## Sessions -/

/-- How sessions are watched. -/
structure Pace where
  /-- The pause before a look, in milliseconds. -/
  poll : Nat
  /-- How long a pane has to stay the same. -/
  quiet : Nat
  deriving DecidableEq, Repr

/-- The listener and the world of sessions. -/
structure Stage (W : Type) where
  /-- The listener. -/
  listener : Callback.Listener
  /-- The world. -/
  world : W

namespace Stage

variable {W α : Type}

/-- Does something with the listener. -/
def onListener (s : Stage W) (f : Callback.Listener → Callback.Listener) : Stage W :=
  { s with listener := f s.listener }

/-- Takes reports in. -/
def deliverAll (s : Stage W) (reports : List Callback.Report) : Stage W :=
  s.onListener (fun l => reports.foldl (fun l report => (l.deliver report).2) l)

/-- Does an operation on a pane. -/
def perform (s : Stage W) (operation : Callback.Listener → W → Answer W α) :
    Except Fault α × Stage W :=
  let answer := operation s.listener s.world
  (answer.result, { s with world := answer.world }.deliverAll answer.reports)

/-- Waits for the signal of a pane. -/
def register (s : Stage W) (pane : String) : Nat × Stage W :=
  let (channel, registry) := s.listener.registry.register pane
  (channel, s.onListener (fun l => { l with registry }))

/-- Is done with a pane. -/
def unregister (s : Stage W) (pane : String) : Stage W :=
  s.onListener (fun l => { l with registry := l.registry.unregister pane })

/-- Does not wait for the signal in a channel any more. -/
def hangUp (s : Stage W) (channel : Nat) : Stage W :=
  s.onListener (fun l => { l with registry := l.registry.drop channel })

/-- The signal in a channel. -/
def signal? (s : Stage W) (channel : Nat) : Option Callback.Signal :=
  match (s.listener.registry.poll channel).1 with
  | .holding signal => some signal
  | _ => none

/-- The signal in a channel, if it is noticed before a watcher goes on. -/
def noticed? (s : Stage W) (schedule : Schedule W) (channel : Nat) : Option Callback.Signal :=
  if schedule.notices s.listener s.world then s.signal? channel else none

/-- Pauses. -/
def pause (s : Stage W) (schedule : Schedule W) : Stage W :=
  let (reports, world) := schedule.pause s.listener s.world
  { s with world }.deliverAll reports

end Stage

variable {W : Type}

/-- The way a session is over after a signal. -/
def Completion.ofSignal : Callback.Signal → Completion
  | .complete => .hook
  | .exited => .exited

/-- The names of the variables that tell a program where to report. -/
def portVar : String := "CADENCE_CALLBACK_PORT"

/-- The name of the variable for the token. -/
def tokenVar : String := "CADENCE_CALLBACK_TOKEN"

/-- The name of the variable for the address. -/
def urlVar : String := "CADENCE_CALLBACK_URL"

/-- What tells a program where to report. -/
def sessionEnv (l : Callback.Listener) : List (String × String) :=
  [(portVar, toString l.port), (tokenVar, l.token), (urlVar, l.url)]

/-! ### The watcher -/

/-- What the task that watches a pane does next. -/
inductive Errand where
  /-- It pauses before a look. -/
  | pause
  /-- It asks whether the program in the pane still runs. -/
  | ask
  /-- It reads the text of the pane. -/
  | read
  deriving DecidableEq, Repr

/-- How far the task has come that watches a pane. -/
structure Patrol where
  /-- What it does next. -/
  errand : Errand
  /-- What it has seen. -/
  watcher : Watcher
  /-- The time. -/
  now : Nat
  deriving DecidableEq, Repr

namespace Patrol

/-- Before the first look, at a time. -/
def start (now : Nat) : Patrol := ⟨.pause, .start now, now⟩

/-- Takes a look in. -/
def see (quiet : Nat) (p : Patrol) (look : Look) : Except (Except Fault Completion) Patrol :=
  (p.watcher.see quiet p.now look).map fun watcher => { p with errand := .pause, watcher }

/-- Does what is next; a verdict ends the task. -/
def step (driver : PaneDriver W) (schedule : Schedule W) (pace : Pace) (pane : String)
    (p : Patrol) (s : Stage W) : Except (Except Fault Completion) Patrol × Stage W :=
  match p.errand with
  | .pause => (.ok { p with errand := .ask, now := p.now + pace.poll }, s.pause schedule)
  | .ask =>
    match s.perform (driver.isAlive pane) with
    | (.error fault, s) => (p.see pace.quiet (.failed fault), s)
    | (.ok false, s) => (p.see pace.quiet .dead, s)
    | (.ok true, s) => (.ok { p with errand := .read }, s)
  | .read =>
    match s.perform (driver.capture pane) with
    | (.error fault, s) => (p.see pace.quiet (.failed fault), s)
    | (.ok text, s) => (p.see pace.quiet (.text text), s)

end Patrol

/-- Waits for the verdict of the watcher or the signal in the channel; the watcher takes at most
`fuel` steps.  The result tells how far a watcher had come that is called off for a signal. -/
def wait (driver : PaneDriver W) (schedule : Schedule W) (pace : Pace) (pane : String)
    (channel : Nat) : (fuel : Nat) → Patrol → Stage W →
    Option (Except Fault Completion × Option Patrol) × Stage W
  | fuel, patrol, s =>
    match s.noticed? schedule channel with
    | some signal => (some (.ok (.ofSignal signal), some patrol), s)
    | none =>
      match fuel with
      | 0 => (none, s)
      | fuel + 1 =>
        match patrol.step driver schedule pace pane s with
        | (.ok patrol, s) => wait driver schedule pace pane channel fuel patrol s
        | (.error verdict, s) =>
          match s.noticed? schedule channel with
          | some signal => (some (.ok (.ofSignal signal), none), s)
          | none => (some (verdict, none), s)

/-- The next step of a watcher that was called off, if it still takes it; while it pauses it is
gone. -/
def lingerOnce (driver : PaneDriver W) (schedule : Schedule W) (pace : Pace) (pane : String) :
    Option Patrol → Stage W → Option Patrol × Stage W
  | none, s => (none, s)
  | some patrol, s =>
    if patrol.errand ≠ .pause ∧ schedule.lingers s.listener s.world = true then
      let (stepped, s) := patrol.step driver schedule pace pane s
      (stepped.toOption, s)
    else (some patrol, s)

/-- What a watcher that was called off still does before the session goes on.  No more than two
steps of its look can be left. -/
def linger (driver : PaneDriver W) (schedule : Schedule W) (pace : Pace) (pane : String)
    (left : Option Patrol) (s : Stage W) : Option Patrol × Stage W :=
  let (left, s) := lingerOnce driver schedule pace pane left s
  lingerOnce driver schedule pace pane left s

/-! ### The session -/

/-- The text of a pane at the end, if the wait for it went well. -/
def finalText (driver : PaneDriver W) (pane : String) (waited : Except Fault Completion)
    (s : Stage W) : Except Fault String × Stage W :=
  match waited with
  | .ok _ => s.perform (driver.capture pane)
  | .error _ => (.ok "", s)

/-- What a session left behind, or what stopped it: first the wait, then its last text. -/
def outcomeOf (pane : String) (waited : Except Fault Completion) (text : Except Fault String) :
    Except Fault Outcome := do
  let completion ← waited
  return ⟨pane, trimmedEnd (← text), completion⟩

/-- Takes the text of a pane when the wait for it is over, and closes it; that it could not be
closed changes nothing.  In between and right after that, a watcher that was called off may go on
with its look; what is left of the look when the session is over is left out. -/
def settle (driver : PaneDriver W) (schedule : Schedule W) (pace : Pace) (pane : String)
    (waited : Except Fault Completion) (left : Option Patrol) (s : Stage W) :
    Except Fault Outcome × Stage W :=
  let (left, s) := linger driver schedule pace pane left s
  let (text, s) := finalText driver pane waited s
  let (left, s) := linger driver schedule pace pane left s
  let (left, s) := linger driver schedule pace pane left (s.unregister pane)
  let (_, s) := s.perform (driver.closePane pane)
  let (_, s) := linger driver schedule pace pane left s
  (outcomeOf pane waited text, s)

/-- Runs a command in a pane until its session is over; there is no result if it never is. -/
def runInteractive (driver : PaneDriver W) (schedule : Schedule W) (pace : Pace) (looks : Nat)
    (command cwd : String) (s : Stage W) : Option (Except Fault Outcome) × Stage W :=
  match s.perform (driver.openPane ⟨command, cwd, sessionEnv s.listener⟩) with
  | (.error fault, s) => (some (.error fault), s)
  | (.ok pane, s) =>
    let (channel, s) := s.register pane
    -- a look takes three steps: a pause, a question and a reading
    match wait driver schedule pace pane channel (3 * looks) (.start 0) s with
    | (none, s) => (none, s)
    | (some (waited, left), s) =>
      let (result, s) := settle driver schedule pace pane waited left (s.hangUp channel)
      (some result, s)

end Runbook.Session
