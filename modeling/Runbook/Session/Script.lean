import Runbook.Json.Value
import Runbook.Session.Interactive

/-!
# Rehearsed panes

Panes that follow a script instead of running a program, to rehearse workflows with.

* `PaneScript` says what a pane shows and how long it lives;
* `Rehearsal` is a world of such panes with a record of all operations on them;
* `Rehearsal.driver` has the operations.
-/

namespace Runbook.Session

/-- What a pane shows and does. -/
structure PaneScript where
  /-- Its name; without one it is named by its number. -/
  id : Option String := none
  /-- The texts it shows, one after another; the last one stays. -/
  frames : List String := []
  /-- How many times its program is found running; without a number it always is. -/
  alive : Option Nat := none
  /-- The path at which it reports while it is opened. -/
  hook : Option String := none
  /-- Whether it reports with a wrong token. -/
  badToken : Bool := false
  /-- Why it cannot be opened. -/
  openError : Option String := none
  /-- Why its program cannot be looked for. -/
  aliveError : Option String := none
  /-- The number of the text that cannot be read. -/
  captureErrorAt : Option Nat := none
  /-- Why it cannot be closed. -/
  closeError : Option String := none

/-- A pane on stage. -/
structure ScriptedPane where
  /-- What it shows and does. -/
  script : PaneScript
  /-- How many times its text was read. -/
  captures : Nat
  /-- How many times its program was looked for. -/
  looks : Nat

/-- An operation on a pane. -/
inductive PaneCall where
  /-- It was to be opened. -/
  | opened (request : PaneRequest)
  /-- It reported, with the status of the reply. -/
  | reported (hook : String) (status : Nat)
  /-- Its program was looked for. -/
  | looked (pane : String)
  /-- Its text was read. -/
  | captured (pane : String)
  /-- It was to be closed. -/
  | closed (pane : String)

/-- The operation as a value. -/
def PaneCall.toValue : PaneCall → Value
  | .opened request => .ofFields [("open", .string request.command), ("cwd", .string request.cwd),
      ("env", .array (request.env.map (fun (name, _) => .string name)))]
  | .reported hook status => .ofFields [("hook", .string hook), ("status", .int status)]
  | .looked pane => .ofFields [("is_alive", .string pane)]
  | .captured pane => .ofFields [("capture", .string pane)]
  | .closed pane => .ofFields [("close", .string pane)]

/-- The script of a pane when there are none: a program that has ended. -/
def endedPane : PaneScript := { alive := some 0 }

/-- A world of rehearsed panes. -/
structure Rehearsal where
  /-- The scripts of the panes that are yet to be opened. -/
  upcoming : List PaneScript
  /-- How many panes were to be opened. -/
  opens : Nat
  /-- The panes. -/
  panes : KeyMap ScriptedPane
  /-- The operations, the last one first. -/
  calls : List PaneCall

namespace Rehearsal

/-- Before the first pane. -/
def start (scripts : List PaneScript) : Rehearsal := ⟨scripts, 0, .empty, []⟩

/-- Notes an operation. -/
def note (r : Rehearsal) (call : PaneCall) : Rehearsal := { r with calls := call :: r.calls }

/-- The script of the next pane, and those after it; the last one is used again. -/
def nextScript : List PaneScript → PaneScript × List PaneScript
  | [] => (endedPane, [])
  | [last] => (last, [last])
  | script :: rest => (script, rest)

/-- The request of a pane that reports. -/
def hookRequest (script : PaneScript) (pane hook : String) (l : Callback.Listener) :
    Callback.Report × String :=
  let token := if script.badToken then l.token ++ "-wrong" else l.token
  (⟨pane, token, (Callback.Listener.signalAt? ("/" ++ hook)).getD .complete⟩, "/" ++ hook)

/-- The status of the reply to a report; 0 if there is none. -/
def hookStatus (l : Callback.Listener) (report : Callback.Report) (path : String) : Nat :=
  if !l.reachable then 0
  else if (Callback.Listener.signalAt? path).isNone then 404
  else (Callback.Listener.replyTo (l.deliver report).1).status

/-- The reports that reach the listener. -/
def arriving (l : Callback.Listener) (report : Callback.Report) (path : String) :
    List Callback.Report :=
  if l.reachable && (Callback.Listener.signalAt? path).isSome then [report] else []

/-- Opens a pane, which may report at once. -/
def openPane (request : PaneRequest) (l : Callback.Listener) (r : Rehearsal) :
    Answer Rehearsal String :=
  let (script, upcoming) := nextScript r.upcoming
  let r := { r with upcoming, opens := r.opens + 1 }.note (.opened request)
  match script.openError with
  | some detail => ⟨.error (.spawn detail), [], r⟩
  | none =>
    let pane := script.id.getD s!"%{r.opens}"
    let r := { r with panes := r.panes.insert pane ⟨script, 0, 0⟩ }
    match script.hook with
    | none => ⟨.ok pane, [], r⟩
    | some hook =>
      let (report, path) := hookRequest script pane hook l
      ⟨.ok pane, arriving l report path, r.note (.reported hook (hookStatus l report path))⟩

/-- A pane of a name; one that was never opened shows nothing. -/
def pane (r : Rehearsal) (name : String) : ScriptedPane :=
  (r.panes.find? name).getD ⟨endedPane, 0, 0⟩

/-- The text that a pane shows the given time. -/
def frameAt (script : PaneScript) (n : Nat) : String :=
  (script.frames[n]?).getD (script.frames.getLast?.getD "")

/-- Reads the text of a pane. -/
def capture (name : String) (r : Rehearsal) : Answer Rehearsal String :=
  let p := r.pane name
  let r := { r with panes := r.panes.insert name { p with captures := p.captures + 1 } }.note
    (.captured name)
  if p.script.captureErrorAt = some p.captures then ⟨.error (.broken "capture failed"), [], r⟩
  else ⟨.ok (frameAt p.script p.captures), [], r⟩

/-- Looks for the program of a pane. -/
def isAlive (name : String) (r : Rehearsal) : Answer Rehearsal Bool :=
  let p := r.pane name
  let r := { r with panes := r.panes.insert name { p with looks := p.looks + 1 } }.note
    (.looked name)
  match p.script.aliveError with
  | some detail => ⟨.error (.broken detail), [], r⟩
  | none => ⟨.ok (p.script.alive.all (p.looks < ·)), [], r⟩

/-- Closes a pane. -/
def closePane (name : String) (r : Rehearsal) : Answer Rehearsal Unit :=
  let r := r.note (.closed name)
  match (r.pane name).script.closeError with
  | some detail => ⟨.error (.broken detail), [], r⟩
  | none => ⟨.ok (), [], r⟩

/-- The operations on rehearsed panes. -/
def driver : PaneDriver Rehearsal where
  openPane := openPane
  capture name _ r := capture name r
  isAlive name _ r := isAlive name r
  closePane name _ r := closePane name r

/-- How many looks are enough for every pane to come to rest: the text changes once for each frame,
and its program is found running as often as the script says. -/
def enoughLooks (quiet poll : Nat) (scripts : List PaneScript) : Nat :=
  (scripts.map (fun s => s.frames.length)).foldl max 0 + quiet / max poll 1 + 3

end Rehearsal

end Runbook.Session
