import Mathlib.Data.List.Induction
import Runbook.Callback.Listener

/-!
# What is done with a listener

A run registers panes, looks into its channels and is done with panes, while programs report to the
listener over the network.  Each of these takes the listener as a whole, so that what happens in a
run is a list of operations, in whatever order they come.

* `Operation` is one of them, `Listener.perform` does it, and `Answer` is what comes of it;
* `Listener.after`, `Listener.answers` and `Listener.given` are the state, the answers and the
  signals taken out of channels after a list of operations;
* `Request.report?` is the report that a request makes, and `Operation.signed?` the report that an
  operation brings with the token of the listener;
* `Ledger` is a registry with the signals that were taken out of it, and `Ledger.ofOps` the one
  after a list of operations.  Its signals may be of any kind: in it a signal can carry the number
  of the operation that brought it.  `Listener.ledger_start` says that a listener
  keeps the ledger of bare signals;
* `Operation.isForged` tells which operations are callbacks with another token than that of the
  listener, and `Listener.perform_of_isForged` says that one of them is refused and changes nothing;
* `Listener.after_genuine` and `Listener.answers_genuine` leave them out of a list of operations;
* `Listener.forged_refused` is the result.
-/

namespace Runbook.Callback

/-! ## Requests that report -/

/-- The report that a request makes, if it makes one. -/
def Request.report? (request : Request) : Option Report :=
  match Listener.signalAt? request.path with
  | none => none
  | some signal =>
    if request.method = "POST" ∧ Form.isForm request.contentType = true then
      Form.report? signal request.body
    else none

/-- The request that reports at a path; pane and token are encoded. -/
def Request.hook (path pane token : String) : Request :=
  ⟨"POST", path, some Form.contentType, s!"pane_id={pane}&token={token}"⟩

namespace Listener

variable {l : Listener} {request : Request} {report : Report}

/-- A request that reports is answered by what comes of the report. -/
theorem answer_of_report (h : request.report? = some report) :
    l.answer request = (replyTo (l.deliver report).1, (l.deliver report).2) := by
  unfold Request.report? at h
  unfold answer
  cases hsignal : signalAt? request.path with
  | none =>
    rw [hsignal] at h
    cases h
  | some signal =>
    rw [hsignal] at h
    dsimp only at h ⊢
    by_cases hform : request.method = "POST" ∧ Form.isForm request.contentType = true
    · rw [if_pos hform] at h
      simp [hform.1, hform.2, h]
    · rw [if_neg hform] at h
      cases h

/-- Any other request leaves the listener as it is, and no signal is taken in. -/
theorem answer_of_report_eq_none (h : request.report? = none) :
    (l.answer request).2 = l ∧ (l.answer request).1.status ≠ 202 := by
  unfold Request.report? at h
  unfold answer
  cases hsignal : signalAt? request.path with
  | none =>
    dsimp only
    split
    · split <;> simp [health]
    · simp
  | some signal =>
    rw [hsignal] at h
    dsimp only at h ⊢
    by_cases hmethod : request.method = "POST"
    · cases hkind : Form.isForm request.contentType with
      | false => simp [hmethod]
      | true =>
        rw [if_pos ⟨hmethod, hkind⟩] at h
        simp [hmethod, h]
    · simp [hmethod]

/-- The status 202 says that a signal was taken in, and that no waiter has it. -/
theorem status_replyTo {verdict : Option Verdict} :
    (replyTo verdict).status = 202 ↔ verdict = some .accepted := by
  rcases verdict with _ | _ | _ | _ <;> simp [replyTo]

end Listener

/-! ## Operations -/

/-- What can be done with a listener. -/
inductive Operation where
  /-- The run waits for the next signal of a pane. -/
  | register (pane : String)
  /-- The run is done with a pane. -/
  | unregister (pane : String)
  /-- The run gives a channel up. -/
  | drop (channel : Nat)
  /-- The run looks into a channel. -/
  | poll (channel : Nat)
  /-- A request arrives. -/
  | request (request : Request)
  deriving DecidableEq

/-- What comes of an operation. -/
inductive Answer where
  /-- The run waits at this channel. -/
  | registered (channel : Nat)
  /-- It is done. -/
  | done
  /-- This is what there is in the channel. -/
  | seen (content : Channel)
  /-- This is the reply to the request. -/
  | replied (reply : Reply)

namespace Operation

/-- The report that an operation brings, if it has this token. -/
def signed? (token : String) : Operation → Option Report
  | .request asked => asked.report?.filter (·.token = token)
  | _ => none

/-- The pane that an operation waits for. -/
def registers? : Operation → Option String
  | .register pane => some pane
  | _ => none

/-- The signal of a pane that an operation brings with the token. -/
def signalOf? (token pane : String) (op : Operation) : Option Signal :=
  ((op.signed? token).filter (·.pane = pane)).map (·.signal)

/-- Whether an operation is about a pane: it waits for the pane, is done with it, or brings a signal
of it. -/
def Concerns (token pane : String) (op : Operation) : Prop :=
  op = .register pane ∨ op = .unregister pane ∨ ∃ signal, op.signalOf? token pane = some signal

instance (token pane : String) (op : Operation) : Decidable (op.Concerns token pane) :=
  haveI : Decidable (∃ signal, op.signalOf? token pane = some signal) :=
    decidable_of_iff _ Option.isSome_iff_exists
  inferInstanceAs (Decidable (op = .register pane ∨ op = .unregister pane ∨
    ∃ signal, op.signalOf? token pane = some signal))

variable {token pane : String} {op : Operation} {report : Report} {signal : Signal}

theorem token_of_signed (h : op.signed? token = some report) : report.token = token := by
  cases op with
  | request asked => simpa using (Option.filter_eq_some_iff.1 h).2
  | _ => cases h

theorem signalOf?_of_signed (h : op.signed? token = some report) :
    op.signalOf? token pane = if report.pane = pane then some report.signal else none := by
  unfold signalOf?
  rw [h]
  by_cases hpane : report.pane = pane <;> simp [Option.filter_some, hpane]

theorem signalOf?_of_unsigned (h : op.signed? token = none) : op.signalOf? token pane = none := by
  simp [signalOf?, h]

/-- The signals of a pane are those in the signed reports of it. -/
theorem signalOf?_eq_some :
    op.signalOf? token pane = some signal ↔ op.signed? token = some ⟨pane, token, signal⟩ := by
  cases h : op.signed? token with
  | none => simp [signalOf?_of_unsigned h]
  | some report =>
    obtain ⟨from', by', what⟩ := report
    obtain rfl : by' = token := token_of_signed h
    rw [signalOf?_of_signed h]
    by_cases hpane : from' = pane <;> simp [hpane]

theorem not_concerns (hregister : op ≠ .register pane) (hunregister : op ≠ .unregister pane)
    (hsignal : op.signalOf? token pane = none) : ¬ op.Concerns token pane := by
  rintro (hop | hop | ⟨signal, hop⟩)
  · exact hregister hop
  · exact hunregister hop
  · rw [hsignal] at hop
    cases hop

end Operation

/-- The signal in a channel. -/
def Channel.held? {σ : Type} : Channel σ → Option σ
  | .holding signal => some signal
  | _ => none

/-- What an operation with this answer took out of a channel, with the channel. -/
def Answer.given? : Operation × Answer → Option (Nat × Signal)
  | (.poll channel, .seen content) => content.held?.map (channel, ·)
  | _ => none

namespace Listener

/-- Does an operation. -/
def perform (l : Listener) : Operation → Answer × Listener
  | .register pane =>
    (.registered (l.registry.register pane).1, { l with registry := (l.registry.register pane).2 })
  | .unregister pane => (.done, { l with registry := l.registry.unregister pane })
  | .drop channel => (.done, { l with registry := l.registry.drop channel })
  | .poll channel =>
    (.seen (l.registry.poll channel).1, { l with registry := (l.registry.poll channel).2 })
  | .request request => (.replied (l.answer request).1, (l.answer request).2)

/-- The listener after operations. -/
def after (l : Listener) (ops : List Operation) : Listener :=
  ops.foldl (fun l op => (l.perform op).2) l

/-- The answers to operations, one after the other. -/
def answers (l : Listener) : List Operation → List Answer
  | [] => []
  | op :: rest => (l.perform op).1 :: answers (l.perform op).2 rest

/-- The signals that operations take out of channels, each with its channel, in order. -/
def given (l : Listener) (ops : List Operation) : List (Nat × Signal) :=
  (ops.zip (l.answers ops)).filterMap Answer.given?

/-- The signals that operations take out of one channel, in order. -/
def yields (l : Listener) (ops : List Operation) (channel : Nat) : List Signal :=
  ((l.given ops).filter (·.1 = channel)).map (·.2)

/-- What somebody who begins to wait for a pane finds in the channel at once. -/
def finds (l : Listener) (pane : String) : Channel :=
  ((l.registry.register pane).2.poll (l.registry.register pane).1).1

variable {l : Listener}

theorem after_concat (ops : List Operation) (op : Operation) :
    l.after (ops ++ [op]) = ((l.after ops).perform op).2 := by
  simp [after]

theorem length_answers (ops : List Operation) : (l.answers ops).length = ops.length := by
  induction ops generalizing l with
  | nil => rfl
  | cons op rest ih => simp [answers, ih]

theorem answers_concat (ops : List Operation) (op : Operation) :
    l.answers (ops ++ [op]) = l.answers ops ++ [((l.after ops).perform op).1] := by
  induction ops generalizing l with
  | nil => rfl
  | cons first rest ih =>
    simp only [List.cons_append, answers, ih]
    rfl

/-- An answer is that of the listener as it is when the turn of the operation comes. -/
theorem getElem?_answers (ops : List Operation) (n : Nat) :
    (l.answers ops)[n]? = (ops[n]?).map fun op => ((l.after (ops.take n)).perform op).1 := by
  induction ops generalizing l n with
  | nil => rfl
  | cons op rest ih =>
    cases n with
    | zero => rfl
    | succ n => simpa [answers, after] using ih n

theorem given_concat (ops : List Operation) (op : Operation) :
    l.given (ops ++ [op]) =
      l.given ops ++ (Answer.given? (op, ((l.after ops).perform op).1)).toList := by
  have hlength : ops.length = (l.answers ops).length := (length_answers ops).symm
  unfold given
  rw [answers_concat, List.zip_append hlength, List.filterMap_append]
  cases h : Answer.given? (op, ((l.after ops).perform op).1) <;> simp [h]

end Listener

/-! ## Registries with signals of any kind -/

namespace Registry

variable {σ : Type}

/-- What an operation does to a registry; `stamp` is what is made of a signal that is taken in. -/
def perform (token : String) (stamp : Signal → σ) (r : Registry σ) (op : Operation) : Registry σ :=
  match op with
  | .register pane => (r.register pane).2
  | .unregister pane => r.unregister pane
  | .drop channel => r.drop channel
  | .poll channel => (r.poll channel).2
  | .request _ =>
    match op.signed? token with
    | some report => (r.receive report.pane (stamp report.signal)).2
    | none => r

variable (token : String) (stamp : Signal → σ) (r : Registry σ) (pane : String)

@[simp] theorem perform_register :
    r.perform token stamp (.register pane) = (r.register pane).2 := rfl

@[simp] theorem perform_unregister :
    r.perform token stamp (.unregister pane) = r.unregister pane := rfl

variable {token stamp r} {op : Operation}

theorem perform_of_signed {report : Report} (h : op.signed? token = some report) :
    r.perform token stamp op = (r.receive report.pane (stamp report.signal)).2 := by
  cases op with
  | request asked =>
    unfold perform
    rw [h]
  | _ => cases h

/-- A request without a signed report changes nothing. -/
theorem perform_request_of_unsigned {asked : Request}
    (h : (Operation.request asked).signed? token = none) :
    r.perform token stamp (.request asked) = r := by
  unfold perform
  rw [h]

/-- What an operation takes out of a channel of a registry, with the channel. -/
def given? (r : Registry σ) : Operation → Option (Nat × σ)
  | .poll channel => (r.poll channel).1.held?.map (channel, ·)
  | _ => none

end Registry

/-- A registry, and the signals that were taken out of its channels, each with its channel. -/
structure Ledger (σ : Type) where
  /-- The registry. -/
  registry : Registry σ
  /-- The signals, in order. -/
  given : List (Nat × σ)

namespace Ledger

variable {σ τ : Type}

/-- Enters an operation. -/
def perform (token : String) (stamp : Signal → σ) (ledger : Ledger σ) (op : Operation) :
    Ledger σ :=
  ⟨ledger.registry.perform token stamp op, ledger.given ++ (ledger.registry.given? op).toList⟩

/-- The ledger of operations; `stamp` is what is made of a signal that the operation with this
number brings. -/
def ofOps (token : String) (stamp : Nat → Signal → σ) (ops : List Operation) : Ledger σ :=
  ops.zipIdx.foldl (fun ledger op => ledger.perform token (stamp op.2) op.1) ⟨.empty, []⟩

theorem ofOps_concat (token : String) (stamp : Nat → Signal → σ) (ops : List Operation)
    (op : Operation) :
    ofOps token stamp (ops ++ [op]) =
      (ofOps token stamp ops).perform token (stamp ops.length) op := by
  simp [ofOps, List.zipIdx_append]

/-- The ledger of bare signals. -/
def ofSignals (token : String) (ops : List Operation) : Ledger Signal :=
  ofOps token (fun _ => id) ops

theorem ofSignals_concat (token : String) (ops : List Operation) (op : Operation) :
    ofSignals token (ops ++ [op]) = (ofSignals token ops).perform token id op :=
  ofOps_concat ..

end Ledger

namespace Listener

variable (l : Listener) (op : Operation)

/-- Only signed reports change anything of a listener, and only its registry. -/
theorem perform_snd :
    (l.perform op).2 = { l with registry := l.registry.perform l.token id op } := by
  cases op with
  | register pane => rfl
  | unregister pane => rfl
  | drop channel => rfl
  | poll channel => rfl
  | request request =>
    show (l.answer request).2 = _
    cases h : request.report? with
    | none =>
      rw [(answer_of_report_eq_none h).1]
      simp [Registry.perform, Operation.signed?, h]
    | some report =>
      rw [answer_of_report h]
      by_cases htoken : report.token = l.token
      · simp [deliver, Registry.perform, Operation.signed?, h, Option.filter_some, htoken]
      · simp [deliver, Registry.perform, Operation.signed?, h, Option.filter_some, htoken]

theorem given?_perform : Answer.given? (op, (l.perform op).1) = l.registry.given? op := by
  cases op <;> rfl

/-- A listener keeps the ledger of bare signals. -/
theorem ledger_start (port : Nat) (token : String) (reachable : Bool) (ops : List Operation) :
    (start port token reachable).after ops =
        ⟨port, token, reachable, (Ledger.ofSignals token ops).registry⟩ ∧
      (start port token reachable).given ops = (Ledger.ofSignals token ops).given := by
  induction ops using List.reverseRecOn with
  | nil => exact ⟨rfl, rfl⟩
  | append_singleton ops op ih =>
    obtain ⟨hafter, hgiven⟩ := ih
    rw [after_concat, given_concat, given?_perform, perform_snd, hafter, hgiven,
      Ledger.ofSignals_concat]
    exact ⟨rfl, rfl⟩

theorem registry_start (port : Nat) (token : String) (reachable : Bool) (ops : List Operation) :
    ((start port token reachable).after ops).registry = (Ledger.ofSignals token ops).registry := by
  rw [(ledger_start port token reachable ops).1]

end Listener

/-!
## Callbacks without the token

Whoever does not know the token of a run can still send callbacks to its listener, for any pane and
at any time.  They are refused, and all else goes on as if they had not been sent.
-/

/-- Whether an operation is a callback with another token than this. -/
def Operation.isForged (token : String) : Operation → Bool
  | .request asked => asked.report?.any (·.token ≠ token)
  | _ => false

/-- The operations without the callbacks that have another token. -/
def genuine (token : String) (ops : List Operation) : List Operation :=
  ops.filter fun op => !op.isForged token

namespace Listener

/-- The reply to a callback that is refused: its status is 401. -/
def refusal : Reply := ⟨401, some (.ofFields [("error", .string "invalid token")])⟩

variable {l : Listener} {op : Operation}

/-- A callback without the token is refused, and the listener stays as it is. -/
theorem perform_of_isForged (h : op.isForged l.token = true) :
    l.perform op = (.replied refusal, l) := by
  cases op with
  | request asked =>
    obtain ⟨report, hreport, htoken⟩ := (Option.any_eq_true ..).1 h
    have hne : report.token ≠ l.token := of_decide_eq_true htoken
    have hdeliver : l.deliver report = (none, l) := if_neg hne
    show (Answer.replied (l.answer asked).1, (l.answer asked).2) = _
    rw [answer_of_report hreport, hdeliver]
    rfl
  | _ => cases h

/-- No operation changes the token of a listener. -/
theorem token_perform (l : Listener) (op : Operation) : (l.perform op).2.token = l.token := by
  rw [perform_snd]

theorem token_after (l : Listener) (ops : List Operation) : (l.after ops).token = l.token := by
  induction ops generalizing l with
  | nil => rfl
  | cons op rest ih => exact (ih _).trans (token_perform l op)

/-- Without the callbacks that have another token, a listener comes to the same state. -/
theorem after_genuine (ops : List Operation) : l.after (genuine l.token ops) = l.after ops := by
  induction ops generalizing l with
  | nil => rfl
  | cons op rest ih =>
    have hrest := ih (l := (l.perform op).2)
    rw [token_perform] at hrest
    unfold genuine at hrest ⊢
    rw [List.filter_cons]
    cases hforged : op.isForged l.token with
    | false => exact hrest
    | true =>
      rw [perform_of_isForged hforged] at hrest
      show l.after (rest.filter _) = (l.perform op).2.after rest
      rw [perform_of_isForged hforged]
      exact hrest

/-- All other operations are answered as before. -/
theorem answers_genuine (ops : List Operation) :
    l.answers (genuine l.token ops) =
      ((ops.zip (l.answers ops)).filter fun entry => !entry.1.isForged l.token).map (·.2) := by
  induction ops generalizing l with
  | nil => rfl
  | cons op rest ih =>
    have hrest := ih (l := (l.perform op).2)
    rw [token_perform] at hrest
    unfold genuine at hrest ⊢
    rw [answers, List.zip_cons_cons, List.filter_cons, List.filter_cons]
    cases hforged : op.isForged l.token with
    | false => exact congrArg ((l.perform op).1 :: ·) hrest
    | true =>
      rw [perform_of_isForged hforged] at hrest ⊢
      exact hrest

/-- **Callbacks without the token have no effect.**  Whatever is done with a listener, and in
whatever order, each callback with another token is refused with the status 401.  If all of them are
left out, every other operation is still answered as before, and the listener comes to the same
state. -/
theorem forged_refused (l : Listener) (ops : List Operation) :
    (∀ (n : Nat) (asked : Request) (report : Report), ops[n]? = some (.request asked) →
        asked.report? = some report → report.token ≠ l.token →
          (l.answers ops)[n]? = some (.replied refusal)) ∧
      l.answers (genuine l.token ops) =
        ((ops.zip (l.answers ops)).filter fun entry => !entry.1.isForged l.token).map (·.2) ∧
      l.after (genuine l.token ops) = l.after ops := by
  refine ⟨?_, answers_genuine ops, after_genuine ops⟩
  intro n asked report hop hreport htoken
  have hforged : (Operation.request asked).isForged (l.after (ops.take n)).token = true := by
    rw [token_after]
    simp [Operation.isForged, hreport, htoken]
  rw [getElem?_answers, hop, Option.map_some, perform_of_isForged hforged]

/-- Callbacks with a guessed token, or none, for a pane that nobody knows, one with a signal that is
kept, one that is waited for and one that is done with, among others with the token. -/
def besieged : List Operation :=
  [.request (.hook "/complete" "%251" "guess"), .request (.hook "/exited" "%252" "secret"),
    .request (.hook "/complete" "%252" "guess"), .register "%1",
    .request (.hook "/exited" "%251" ""), .unregister "%3",
    .request (.hook "/complete" "%253" "guess"), .request (.hook "/complete" "%251" "secret"),
    .poll 0, .register "%2", .poll 1]

/-- The callback for the pane that is waited for is refused; without it and the other three, the two
receivers still yield what came with the token. -/
theorem forged_refused_waiting :
    ((start 4000 "secret" true).answers besieged)[4]? = some (.replied refusal) ∧
      genuine "secret" besieged =
        [.request (.hook "/exited" "%252" "secret"), .register "%1", .unregister "%3",
          .request (.hook "/complete" "%251" "secret"), .poll 0, .register "%2", .poll 1] ∧
      (start 4000 "secret" true).after (genuine "secret" besieged) =
        (start 4000 "secret" true).after besieged := by
  have hreport : (Request.hook "/exited" "%251" "").report? = some ⟨"%1", "", .exited⟩ := by
    decide +kernel
  have hrefused := forged_refused (start 4000 "secret" true) besieged
  exact ⟨hrefused.1 4 _ _ rfl hreport (by decide), by decide +kernel, hrefused.2.2⟩

end Listener

end Runbook.Callback
