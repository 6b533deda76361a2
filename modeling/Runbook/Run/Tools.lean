import Runbook.Attachment
import Runbook.Command.Outcome
import Runbook.Session.Outcome
import Runbook.Variables

/-!
# The tools of a run

Everything outside of a run that its steps reach: commands, sessions and adapters.  What they do
may depend on a world of any kind, which they change.
-/

namespace Runbook

/-- What an adapter is told. -/
structure AdapterCall where
  /-- The step that calls it. -/
  step : String
  /-- Its parameters, with all texts filled. -/
  params : Value
  /-- The working directory. -/
  cwd : String

/-- What comes of the call of an adapter. -/
structure AdapterReply where
  /-- The output of the step, or why it failed. -/
  outcome : Except String Value
  /-- The variables afterwards. -/
  vars : Variables

/-- The tools of a run in a world. -/
structure Tools (W : Type) where
  /-- Runs a shell command with a limit of time in milliseconds; a text says why it cannot start. -/
  shell : (command cwd : String) → (limit : Nat) → W → Except String Command.Outcome × W
  /-- Runs a program in the same way. -/
  program : (program : String) → (args : List String) → (cwd : String) → (limit : Nat) → W →
    Except String Command.Outcome × W
  /-- Runs a command in a pane until its session is over; there is no result if it never is. -/
  session : (command cwd : String) → W → Option (Except Session.Fault Session.Outcome) × W
  /-- Lets programs read the files with long values. -/
  publish : Attachments → W → W
  /-- Calls an adapter. -/
  adapter : (name : String) → AdapterCall → Variables → W → AdapterReply × W

end Runbook
