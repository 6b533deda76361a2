import Runbook.Callback.Listener

/-!
# Panes

The four operations on panes of a terminal, each of which may fail, change the world it works in,
and see reports come in while it lasts.

* `Answer` is what comes of an operation;
* `PaneDriver` has the operations;
* `PaneDriver.onFirst` and `PaneDriver.onSecond` let it work in one of two worlds;
* `Schedule` says what happens between the operations, and which of two tasks goes on first.
-/

namespace Runbook.Session

/-- What to start in a pane. -/
structure PaneRequest where
  /-- The shell command. -/
  command : String
  /-- The working directory. -/
  cwd : String
  /-- The environment variables to add. -/
  env : List (String × String)
  deriving DecidableEq, Repr

/-- What comes of an operation. -/
structure Answer (W α : Type) where
  /-- Its result. -/
  result : Except Fault α
  /-- The reports that came in, in order. -/
  reports : List Callback.Report
  /-- The world afterwards. -/
  world : W

/-- The operations on panes; each may look at the listener that its pane reports to. -/
structure PaneDriver (W : Type) where
  /-- Opens a pane; the result names it. -/
  openPane : PaneRequest → Callback.Listener → W → Answer W String
  /-- The text of a pane. -/
  capture : (pane : String) → Callback.Listener → W → Answer W String
  /-- Whether the program in a pane still runs. -/
  isAlive : (pane : String) → Callback.Listener → W → Answer W Bool
  /-- Closes a pane. -/
  closePane : (pane : String) → Callback.Listener → W → Answer W Unit

variable {V W α : Type}

/-- What comes of an operation in the first of two worlds. -/
def Answer.onFirst (second : W) (a : Answer V α) : Answer (V × W) α :=
  ⟨a.result, a.reports, a.world, second⟩

/-- What comes of an operation in the second of two worlds. -/
def Answer.onSecond (first : V) (a : Answer W α) : Answer (V × W) α :=
  ⟨a.result, a.reports, first, a.world⟩

namespace PaneDriver

/-- Works in the first of two worlds. -/
def onFirst (driver : PaneDriver V) : PaneDriver (V × W) where
  openPane request l w := (driver.openPane request l w.1).onFirst w.2
  capture pane l w := (driver.capture pane l w.1).onFirst w.2
  isAlive pane l w := (driver.isAlive pane l w.1).onFirst w.2
  closePane pane l w := (driver.closePane pane l w.1).onFirst w.2

/-- Works in the second of two worlds. -/
def onSecond (driver : PaneDriver W) : PaneDriver (V × W) where
  openPane request l w := (driver.openPane request l w.2).onSecond w.1
  capture pane l w := (driver.capture pane l w.2).onSecond w.1
  isAlive pane l w := (driver.isAlive pane l w.2).onSecond w.1
  closePane pane l w := (driver.closePane pane l w.2).onSecond w.1

end PaneDriver

/-! ## Between the operations -/

/-- How the world goes on between the operations, and in which order two tasks do: the one that
waits for the signal of a pane, and the one that watches the pane.  That the watcher is called off
does not stop it in the middle of what it is doing, so it may still go on for a while. -/
structure Schedule (W : Type) where
  /-- What happens while the watcher pauses: the reports that come in, in order, and the world
  afterwards. -/
  pause : Callback.Listener → W → List Callback.Report × W
  /-- Whether a signal that is there is noticed before the watcher goes on. -/
  notices : Callback.Listener → W → Bool
  /-- Whether a watcher that was called off goes on before the session does. -/
  lingers : Callback.Listener → W → Bool

namespace Schedule

/-- Nothing happens during pauses, a signal is noticed at once, and so is being called off. -/
def prompt : Schedule W := ⟨fun _ w => ([], w), fun _ _ => true, fun _ _ => false⟩

/-- The schedule of a world inside another one. -/
def within (schedule : Schedule W) (get : V → W) (set : V → W → V) : Schedule V where
  pause l v := ((schedule.pause l (get v)).1, set v (schedule.pause l (get v)).2)
  notices l v := schedule.notices l (get v)
  lingers l v := schedule.lingers l (get v)

end Schedule

end Runbook.Session
