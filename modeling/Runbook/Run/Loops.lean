import Runbook.Loop.Items
import Runbook.Run.State

/-!
# Loops

The four kinds of loops, each given what a pass does.

* `inFrame` opens a frame around a loop and closes it, whatever the end of the loop is;
* `foreachPasses`, `whilePasses`, `rangePasses` and `retryPasses` go from pass to pass;
* `foreachLoop`, `whileLoop`, `rangeLoop` and `retryLoop` are the loops with their summaries.
-/

namespace Runbook.Run

variable {W : Type}

/-- The loop step that a loop belongs to. -/
structure LoopSite where
  /-- The name of the step. -/
  step : String
  /-- Its position in its list. -/
  index : Nat
  /-- Its path. -/
  path : String

/-- The failure of a loop that cannot begin. -/
def LoopSite.check {α : Type} (site : LoopSite) : Except String α → Run W α
  | .ok a => return a
  | .error message => fail (.stepFailed site.step message)

/-- Runs a loop inside a frame of its own. -/
def inFrame {α : Type} (site : LoopSite) (kind : LoopKind) (names : List String)
    (loop : Run W α) : Run W α := do
  update (·.enterLoop kind site.step site.index names)
  closing loop Progress.exitLoop

/-- Whether a condition that may be absent holds. -/
def holdsIf (condition : Option String) : Run W Bool :=
  match condition with
  | some condition => holds condition
  | none => return false

/-! ## Items -/

/-- How a loop over items went. -/
structure ForeachSummary where
  /-- The passes that began. -/
  iterations : Nat
  /-- The passes that came to their end. -/
  completed : Nat
  /-- Whether a pass ended the loop. -/
  broken : Bool

/-- The summary as a value. -/
def ForeachSummary.toValue (s : ForeachSummary) : Value :=
  .ofFields [("iterations", .int s.iterations), ("completed", .int s.completed),
    ("broken", .bool s.broken)]

/-- Binds the variables of a loop over items. -/
def bindItem (loop : ForeachLoop) (item : Value) (index : Nat) : Run W Unit := do
  bindVar loop.itemVar item
  bindVar loop.indexVar (.int index)

/-- The items from a position on for which the condition holds. -/
def filterItems (loop : ForeachLoop) (condition : String) : Nat → List Value →
    Run W (List Value)
  | _, [] => return []
  | index, item :: rest => do
    bindItem loop item index
    let kept ← holds condition
    let more ← filterItems loop condition (index + 1) rest
    return if kept then item :: more else more

/-- The items in the order that sorting gave them. -/
def orSorted : Option (List Value) → Run W (List Value)
  | some items => return items
  | none => throw .panicked

/-- The items that a loop goes over, filtered and sorted. -/
def itemsOf (sorter : Sorter) (site : LoopSite) (loop : ForeachLoop) : Run W (List Value) := do
  let items ← site.check (Loop.resolveItems (← currentVars) loop.items)
  let kept ← match loop.filter with
    | some condition => filterItems loop condition 0 items
    | none => pure items
  orSorted (Loop.sortItems sorter loop.sortBy loop.sortOrder kept)

/-- Goes over the items from a position on. -/
def foreachPasses (site : LoopSite) (loop : ForeachLoop) (pass : Run W Unit) :
    Nat → List Value → Run W ForeachSummary
  | index, [] => return ⟨index, index, false⟩
  | index, item :: rest => do
    bindItem loop item index
    update (·.setCursor index)
    pass
    if (← takeSignal) = .leave then return ⟨index + 1, index, true⟩
    if ← holdsIf loop.stopWhen then
      report (.debug s!"[Loop] foreach '{site.path}' stopped by until after {index}")
      return ⟨index + 1, index + 1, false⟩
    foreachPasses site loop pass (index + 1) rest

/-- A loop over items. -/
def foreachLoop (sorter : Sorter) (site : LoopSite) (loop : ForeachLoop) (pass : Run W Unit) :
    Run W Value :=
  inFrame site .iteration [loop.itemVar, loop.indexVar] do
    let items ← itemsOf sorter site loop
    update (·.setTotal items.length)
    report (.info s!"[Loop] foreach '{site.path}' over {items.length} items")
    return (← foreachPasses site loop pass 0 items).toValue

/-! ## Conditions -/

/-- How a loop while a condition holds went. -/
structure WhileSummary where
  /-- The passes. -/
  iterations : Nat
  /-- Whether the condition still held after the most passes. -/
  exhausted : Bool

/-- The summary as a value. -/
def WhileSummary.toValue (s : WhileSummary) : Value :=
  .ofFields [("iterations", .int s.iterations), ("exhausted", .bool s.exhausted)]

/-- Goes on while the condition holds; `left` passes may follow the `done` ones. -/
def whilePasses (loop : WhileLoop) (pass : Run W Unit) : (left done : Nat) → Run W WhileSummary
  | left, done => do
    if !(← holds loop.condition) then return ⟨done, false⟩
    match left with
    | 0 => return ⟨done, true⟩
    | left + 1 =>
      update (·.setCursor done)
      bindVar loop.counterVar (.int (done + 1 : Nat))
      pass
      if (← takeSignal) = .leave then return ⟨done + 1, false⟩
      whilePasses loop pass left (done + 1)

/-- What a loop says that ran out of passes. -/
def WhileLoop.exhaustedDetail (loop : WhileLoop) : String :=
  s!"condition '{loop.condition}' still true after {loop.maxPasses} iterations"

/-- Fails, or reports it and goes on. -/
def exhausted (site : LoopSite) (policy : OnExhausted) (kind detail : String) : Run W Unit :=
  match policy with
  | .fail => fail (.loopExhausted site.step detail)
  | .goOn => report (.warn s!"[Loop] {kind} '{site.path}' exhausted: {detail}, continuing")

/-- A loop while a condition holds. -/
def whileLoop (site : LoopSite) (loop : WhileLoop) (pass : Run W Unit) : Run W Value :=
  inFrame site .whilst [loop.counterVar] do
    let summary ← whilePasses loop pass loop.maxPasses 0
    if summary.exhausted then
      exhausted site loop.onExhausted "while" (WhileLoop.exhaustedDetail loop)
    return summary.toValue

/-! ## Ranges -/

/-- Goes over the numbers from `first` on, `left` of them after the `done` ones; the number of
passes is the result. -/
def rangePasses (loop : RangeLoop) (first : Int) (pass : Run W Unit) :
    (left done : Nat) → Run W Nat
  | 0, done => return done
  | left + 1, done => do
    bindVar loop.var (.int (Loop.spanValue first loop.stride done))
    update (·.setCursor done)
    pass
    if (← takeSignal) = .leave then return done + 1
    rangePasses loop first pass left (done + 1)

/-- A loop over a range. -/
def rangeLoop (site : LoopSite) (loop : RangeLoop) (pass : Run W Unit) : Run W Value :=
  inFrame site .range [loop.var] do
    let vars ← currentVars
    let first ← site.check (Loop.resolveBound vars loop.first)
    let last ← site.check (Loop.resolveBound vars loop.last)
    let total := Loop.spanLength first last loop.stride
    update (·.setTotal total)
    report (.info
      s!"[Loop] range '{site.path}' {first}..={last} step {loop.stride} ({total} passes)")
    let iterations ← rangePasses loop first pass total 0
    return .ofFields [("iterations", .int iterations)]

/-! ## Attempts -/

/-- How a loop until a pass succeeds went. -/
structure RetrySummary where
  /-- Whether a pass succeeded. -/
  success : Bool
  /-- The passes. -/
  attempts : Nat
  /-- Why the last pass that failed did so. -/
  lastError : Option String

/-- The summary as a value. -/
def RetrySummary.toValue (s : RetrySummary) : Value :=
  .ofFields [("success", .bool s.success), ("attempts", .int s.attempts),
    ("last_error", .ofString? s.lastError)]

/-- What a loop says that ran out of attempts. -/
def RetrySummary.exhaustedDetail (s : RetrySummary) : String :=
  s!"{s.attempts} attempts without success" ++
    (match s.lastError with
      | some e => s!" (last error: {e})"
      | none => "")

/-- One attempt; the result is why it failed, if it did. -/
def tryPass (site : LoopSite) (loop : RetryLoop) (pass : Run W Unit) (number : Nat) :
    Run W (Option String) := do
  match ← attempt pass with
  | .ok () => return none
  | .error failure =>
    if failure.isStepFailure then
      report (.warn (s!"[Loop] retry '{site.path}' attempt {number}/{loop.maxAttempts} failed: " ++
        failure.text))
      return some failure.message
    else fail failure

/-- Whether an attempt succeeded, given whether it did not fail. -/
def succeeded (loop : RetryLoop) (passed : Bool) : Run W Bool :=
  match loop.stopWhen with
  | some condition => holds condition
  | none => return passed

/-- Tries until a pass succeeds or ends the loop; `left` attempts may follow the `done` ones. -/
def retryPasses (site : LoopSite) (loop : RetryLoop) (pass : Run W Unit) :
    (left done : Nat) → (lastError : Option String) → Run W RetrySummary
  | 0, done, lastError => return ⟨false, done, lastError⟩
  | left + 1, done, lastError => do
    update (·.setCursor done)
    bindVar loop.attemptVar (.int (done + 1 : Nat))
    let error ← tryPass site loop pass (done + 1)
    let signal ← takeSignal
    let success ← succeeded loop error.isNone
    let lastError := error.or lastError
    if success || signal = .leave then return ⟨success, done + 1, lastError⟩
    retryPasses site loop pass left (done + 1) lastError

/-- A loop until a pass succeeds. -/
def retryLoop (site : LoopSite) (loop : RetryLoop) (pass : Run W Unit) : Run W Value :=
  inFrame site .retry [loop.attemptVar] do
    update (·.setTotal loop.maxAttempts)
    let summary ← retryPasses site loop pass loop.maxAttempts 0 none
    if summary.success then
      report (.info s!"[Loop] retry '{site.path}' succeeded on attempt {summary.attempts}")
    else if loop.maxAttempts ≤ summary.attempts then
      exhausted site loop.onExhausted "retry" summary.exhaustedDetail
    return summary.toValue

end Runbook.Run
