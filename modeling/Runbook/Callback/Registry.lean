import Runbook.KeyMap

/-!
# Waiting for signals

Who waits for the signal of which pane, and what becomes of signals that nobody waits for.  Nothing
here depends on what a signal says, so signals may be of any type.

* `Channel` is where the signal for one waiter arrives;
* `Registry.register` waits for a pane, `Registry.unregister` is done with it;
* `Registry.receive` takes a signal in: a pane that is done with gets nothing, a waiter gets the
  signal, and otherwise it is kept for the next waiter;
* `Registry.poll` looks into a channel, `Registry.drop` gives it up.
-/

namespace Runbook.Callback

/-- What a pane reports. -/
inductive Signal where
  /-- Its program is done. -/
  | complete
  /-- Its program ended. -/
  | exited
  deriving DecidableEq, Repr

/-- The name of a signal. -/
def Signal.name : Signal → String
  | .complete => "complete"
  | .exited => "exited"

/-- Where the signal for one waiter arrives. -/
inductive Channel (σ : Type := Signal) where
  /-- Nothing has arrived. -/
  | waiting
  /-- A signal has arrived. -/
  | holding (signal : σ)
  /-- Nothing will arrive any more. -/
  | closed
  /-- The waiter has given it up. -/
  | dropped
  deriving DecidableEq, Repr

namespace Channel

variable {σ : Type}

/-- The channel when nobody can send any more. -/
def hangUp : Channel σ → Channel σ
  | .waiting => .closed
  | other => other

/-- The channel after one look into it. -/
def taken : Channel σ → Channel σ
  | .holding _ => .closed
  | other => other

end Channel

/-- Who waits for what. -/
structure Registry (σ : Type := Signal) where
  /-- The channels, in the order of their waiters. -/
  channels : List (Channel σ)
  /-- The channel of the waiter of each pane. -/
  waiters : KeyMap Nat
  /-- The signals that nobody waited for. -/
  early : KeyMap σ
  /-- The panes that are done with. -/
  finished : KeyMap Unit
  deriving DecidableEq

/-- What becomes of a signal. -/
inductive Verdict where
  /-- Its pane is done with. -/
  | gone
  /-- A waiter has it. -/
  | delivered
  /-- It was taken in, and no waiter has it. -/
  | accepted
  deriving DecidableEq, Repr

namespace Registry

variable {σ : Type}

/-- Nobody waits. -/
def empty : Registry σ := ⟨[], .empty, .empty, .empty⟩

/-- Changes a channel. -/
def onChannel (r : Registry σ) (id : Nat) (f : Channel σ → Channel σ) : Registry σ :=
  { r with channels := r.channels.modify id f }

/-- Sends the waiter of a pane away. -/
def release (r : Registry σ) (pane : String) : Registry σ :=
  match r.waiters.find? pane with
  | some id => { r.onChannel id Channel.hangUp with waiters := r.waiters.erase pane }
  | none => r

/-- Waits for the next signal of a pane; the result is the number of the channel. -/
def register (r : Registry σ) (pane : String) : Nat × Registry σ :=
  let id := r.channels.length
  let r := { r with finished := r.finished.erase pane }
  match r.early.find? pane with
  | some signal =>
    (id, { r with channels := r.channels ++ [.holding signal], early := r.early.erase pane })
  | none =>
    let r := r.release pane
    (id, { r with channels := r.channels ++ [.waiting], waiters := r.waiters.insert pane id })

/-- Is done with a pane. -/
def unregister (r : Registry σ) (pane : String) : Registry σ :=
  let r := r.release pane
  { r with early := r.early.erase pane, finished := r.finished.insert pane () }

/-- Takes a signal of a pane in. -/
def receive (r : Registry σ) (pane : String) (signal : σ) : Verdict × Registry σ :=
  if r.finished.contains pane then (.gone, r)
  else match r.waiters.find? pane with
    | none => (.accepted, { r with early := r.early.insert pane signal })
    | some id =>
      let after := { r with waiters := r.waiters.erase pane }
      match r.channels[id]? with
      | some .waiting => (.delivered, after.onChannel id (fun _ => .holding signal))
      | _ => (.accepted, after)

/-- Looks into a channel; a signal is taken out. -/
def poll (r : Registry σ) (id : Nat) : Channel σ × Registry σ :=
  ((r.channels[id]?).getD .closed, r.onChannel id Channel.taken)

/-- Gives a channel up. -/
def drop (r : Registry σ) (id : Nat) : Registry σ := r.onChannel id (fun _ => .dropped)

end Registry

end Runbook.Callback
