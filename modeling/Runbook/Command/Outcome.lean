import Runbook.Text.Blank

/-!
# Outcomes of commands

What is left of a command that ran: what it wrote, and how it ended.

* `Outcome.success` looks at the exit code alone;
* `Outcome.failureMessage` words a command that did not succeed.
-/

namespace Runbook.Command

/-- What a command left behind. -/
structure Outcome where
  /-- What it wrote. -/
  stdout : String
  /-- What it wrote to the error channel. -/
  stderr : String
  /-- Its exit code, if it was not ended from outside. -/
  exitCode : Option Int
  /-- Whether it was ended for taking too long. -/
  timedOut : Bool
  deriving DecidableEq, Repr

namespace Outcome

/-- The outcome of a command that took too long. -/
def timeout : Outcome := ⟨"", "", none, true⟩

/-- Whether the command ended by itself with exit code 0. -/
def success (o : Outcome) : Bool := !o.timedOut && o.exitCode == some 0

/-- The error output without blanks around it, or else the output. -/
def detail (o : Outcome) : String :=
  if allBlank o.stderr then trimmed o.stdout else trimmed o.stderr

/-- Why the command did not succeed; `limit` is the time it had, in milliseconds. -/
def failureMessage (o : Outcome) (limit : Nat) : String :=
  if o.timedOut then s!"timed out after {limit / 1000}s"
  else
    let reason := match o.exitCode with
      | some code => s!"exit code {code}"
      | none => "terminated by signal"
    if o.detail.isEmpty then reason else s!"{reason}: {o.detail}"

end Outcome

end Runbook.Command
