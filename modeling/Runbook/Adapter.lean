import Runbook.Number.Binary64
import Runbook.Run.Tools

/-!
# Simple adapters

Adapters that need nothing but the variables of a run, to try workflows out with.

* `echo` and `snapshot` give back what they see;
* `fail` and `flaky` fail, always or for a while;
* `push` and `unset` change variables;
* `locate` tells where it was called.
-/

namespace Runbook.Adapter

/-- An adapter that needs nothing but the variables. -/
abbrev Simple := AdapterCall → Variables → AdapterReply

/-- A text among the parameters, or the text to take in its place. -/
def textParam (call : AdapterCall) (name default : String) : String :=
  ((call.params.field? name).bind Value.string?).getD default

/-- The largest whole number that counts as one. -/
def maxInt : Int := twoTo 63 - 1

/-- A whole number of 64 bits. -/
def wholeNumber? (v : Value) : Option Int := v.int?.filter (· ≤ maxInt)

/-- Gives its parameters back, and binds them. -/
def echo : Simple := fun call vars => ⟨.ok call.params, vars.insert "echoed" call.params⟩

/-- Fails. -/
def fail : Simple := fun call vars => ⟨.error (textParam call "message" "adapter failed"), vars⟩

/-- Counts its calls in a variable, and fails until there are enough of them. -/
def flaky : Simple := fun call vars =>
  let counter := textParam call "counter" "flaky_count"
  let n := ((vars.find? counter).bind wholeNumber?).getD 0 + 1
  let vars := vars.insert counter (.int n)
  if n < ((call.params.field? "ok_at").bind wholeNumber?).getD 2 then ⟨.error s!"attempt {n}", vars⟩
  else ⟨.ok (.int n), vars⟩

/-- Adds a value to a list in a variable. -/
def push : Simple := fun call vars =>
  let name := textParam call "list" "trail"
  let items := ((vars.find? name).bind Value.array?).getD [] ++
    [(call.params.field? "value").getD .null]
  ⟨.ok (.int items.length), vars.insert name (.array items)⟩

/-- Gives all variables back. -/
def snapshot : Simple := fun _ vars => ⟨.ok (.ofMap vars), vars⟩

/-- Removes a variable, and tells whether there was one. -/
def unset : Simple := fun call vars =>
  let name := textParam call "name" ""
  ⟨.ok (.bool (vars.contains name)), vars.erase name⟩

/-- Tells where it was called. -/
def locate : Simple := fun call vars =>
  ⟨.ok (.ofFields [("step", .string call.step), ("cwd", .string call.cwd)]), vars⟩

/-- The adapters by name. -/
def all : List (String × Simple) :=
  [("echo", echo), ("fail", fail), ("flaky", flaky), ("push", push), ("snapshot", snapshot),
    ("unset", unset), ("where", locate)]

/-- Calls the adapter of a name; one that is not there fails. -/
def invoke (name : String) (call : AdapterCall) (vars : Variables) : AdapterReply :=
  match all.find? (fun (n, _) => n == name) with
  | some (_, adapter) => adapter call vars
  | none => ⟨.error s!"unknown adapter '{name}'", vars⟩

end Runbook.Adapter
