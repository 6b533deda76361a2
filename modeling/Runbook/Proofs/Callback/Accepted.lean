import Runbook.Proofs.Callback.Timing

/-!
# Signals that were taken in and not delivered

The status 202 tells a program that its signal was taken in, and that no receiver has it.  Whoever
waits for the pane next finds such a signal at once, if it was kept.  It is not kept if there was
still a receiver that waited for the pane, and that receiver had been dropped.

* `WaitsSince` says since when somebody waits for a pane; `WaitsSince.stands` and
  `WaitsSince.content` are how the pane stands then and what is in the channel, and
  `exists_waitsSince` finds out since when it is;
* `Listener.Forsaken` says that whoever waited for a pane last was dropped;
* `Listener.accepted_found` is the result, and `Listener.accepted_lost` a signal that was taken in
  and that nobody finds.
-/

namespace Runbook.Callback

variable {token pane : String} {op : Operation} {channel : Nat} {first rest ops : List Operation}

/-! ## Since when somebody waits -/

/-- Somebody began to wait for a pane after `first` and found nothing, and all that came since is
not about the pane. -/
structure WaitsSince (token pane : String) (first rest ops : List Operation) : Prop where
  /-- The operations. -/
  ops_eq : ops = first ++ .register pane :: rest
  /-- No signal was kept. -/
  nothing : (Ledger.ofSignals token first).registry.early.find? pane = none
  /-- Nothing else is about the pane. -/
  quiet : ∀ op ∈ rest, ¬ op.Concerns token pane

/-- Whoever waits does so at the channel that was opened then. -/
theorem WaitsSince.stands (h : WaitsSince token pane first rest ops) :
    (Ledger.ofSignals token ops).registry.Stands pane (.awaited (registered first).length) := by
  obtain ⟨rfl, hnothing, hquiet⟩ := h
  have hsound := Ledger.sound_ofSignals token first
  obtain ⟨a, ha⟩ := hsound.stands pane
  have hsignal : a.signal? = none := ha.early.symm.trans hnothing
  have hregister : (Ledger.ofSignals token (first ++ [.register pane])).registry.Stands pane
      (.awaited (registered first).length) := by
    have hnext := ha.register
    rw [hsound.length] at hnext
    rw [Ledger.ofSignals_concat]
    cases a with
    | kept signal => cases hsignal
    | _ => exact hnext
  rw [List.append_cons]
  exact stands_append hregister hquiet

/-- What is in that channel. -/
theorem WaitsSince.content (h : WaitsSince token pane first rest ops) :
    (Ledger.ofSignals token ops).registry.channels[(registered first).length]? =
      some (if .drop (registered first).length ∈ rest then .dropped else .waiting) := by
  induction rest using List.reverseRecOn generalizing ops with
  | nil =>
    obtain ⟨rfl, hnothing, -⟩ := h
    rw [Ledger.ofSignals_concat]
    have hchannel := Registry.register_channel (Ledger.ofSignals token first).registry pane
    rw [hnothing, (Ledger.sound_ofSignals token first).length] at hchannel
    exact hchannel
  | append_singleton rest op ih =>
    obtain ⟨rfl, hnothing, hquiet⟩ := h
    have hbefore : WaitsSince token pane first rest (first ++ .register pane :: rest) :=
      ⟨rfl, hnothing, fun op hop => hquiet op (List.mem_append_left _ hop)⟩
    have hsound := Ledger.sound_ofSignals token (first ++ .register pane :: rest)
    rw [← List.cons_append, ← List.append_assoc, Ledger.ofSignals_concat]
    refine (hsound.channel_of_not_concerns hbefore.stands.waiter (hquiet op (by simp))
      (ih hbefore)).trans (congrArg some ?_)
    by_cases hdrop : op = .drop (registered first).length
    · simp [hdrop]
    · by_cases hold : .drop (registered first).length ∈ rest
      · simp [hdrop, hold, Channel.taken]
      · simp [hdrop, Ne.symm hdrop, hold, Channel.taken]

theorem exists_waitsSince
    (h : (Ledger.ofSignals token ops).registry.Stands pane (.awaited channel)) :
    ∃ first rest, WaitsSince token pane first rest ops ∧ (registered first).length = channel := by
  induction ops using List.reverseRecOn with
  | nil => cases h.waiter
  | append_singleton ops op ih =>
    have hsound := Ledger.sound_ofSignals token ops
    obtain ⟨a, ha⟩ := hsound.stands pane
    rw [Ledger.ofSignals_concat] at h
    by_cases hconcerns : op.Concerns token pane
    · -- Of what can be about a pane, only a new wait for it leaves somebody waiting.
      have hnext := (ha.perform token id op).unique h
      rcases hconcerns with rfl | rfl | ⟨signal, hsignal⟩
      · refine ⟨ops, [], ⟨rfl, ?_, nofun⟩, ?_⟩
        · rw [ha.early]
          cases a with
          | kept signal =>
            rw [Standing.next_register] at hnext
            cases hnext
          | _ => rfl
        · rw [Standing.next_register, hsound.length] at hnext
          cases a <;> cases hnext <;> rfl
      · rw [Standing.next_unregister] at hnext
        cases hnext
      · rw [Standing.next_of_signalOf? hsignal] at hnext
        cases a <;> cases hnext
    · obtain rfl := (ha.perform_of_not_concerns hconcerns).unique h
      obtain ⟨first, rest, ⟨rfl, hnothing, hquiet⟩, hchannel⟩ := ih ha
      refine ⟨first, rest ++ [op], ⟨?_, hnothing, ?_⟩, hchannel⟩
      · rw [← List.cons_append, ← List.append_assoc]
      · intro other hother
        rcases List.mem_append.1 hother with hold | hlast
        · exact hquiet other hold
        · rwa [List.mem_singleton.1 hlast]

/-! ## Whoever waits next -/

namespace Listener

variable {port : Nat} {reachable : Bool}

theorem finds_eq (l : Listener) (pane : String) :
    l.finds pane = (l.registry.early.find? pane).elim .waiting .holding := by
  unfold finds Registry.poll
  rw [Registry.register_fst, Registry.register_channel]
  rfl

/-- Whoever waited for a pane last found nothing, and gave up before anything else was about it. -/
def Forsaken (l : Listener) (pane : String) (ops : List Operation) : Prop :=
  ∃ (first rest : List Operation) (channel : Nat), ops = first ++ .register pane :: rest ∧
    ((l.after first).perform (.register pane)).1 = .registered channel ∧
    (l.after first).finds pane = .waiting ∧
    (∀ op ∈ rest, ¬ op.Concerns l.token pane) ∧ .drop channel ∈ rest

theorem forsaken_iff :
    (start port token reachable).Forsaken pane ops ↔
      ∃ first rest, WaitsSince token pane first rest ops ∧
        .drop (registered first).length ∈ rest := by
  have hfinds (first : List Operation) :
      ((start port token reachable).after first).finds pane = .waiting ↔
        (Ledger.ofSignals token first).registry.early.find? pane = none := by
    rw [finds_eq, registry_start]
    cases (Ledger.ofSignals token first).registry.early.find? pane <;> simp
  constructor
  · rintro ⟨first, rest, channel, rfl, hchannel, hwaiting, hquiet, hdrop⟩
    rw [← (registered_start ..).1 hchannel] at hdrop
    exact ⟨first, rest, ⟨rfl, (hfinds first).1 hwaiting, hquiet⟩, hdrop⟩
  · rintro ⟨first, rest, ⟨rfl, hnothing, hquiet⟩, hdrop⟩
    exact ⟨first, rest, _, rfl, (registered_start ..).2 rfl, (hfinds first).2 hnothing, hquiet,
      hdrop⟩

/-- A report that is answered with the status 202 has the token, and no waiter has its signal. -/
theorem receive_of_accepted {l : Listener} {asked : Request} {report : Report}
    (hreport : asked.report? = some report) (haccepted : (l.answer asked).1.status = 202) :
    report.token = l.token ∧ (l.registry.receive report.pane report.signal).1 = .accepted := by
  rw [answer_of_report hreport] at haccepted
  have hverdict := status_replyTo.1 haccepted
  unfold deliver at hverdict
  by_cases htoken : report.token = l.token
  · rw [if_pos htoken] at hverdict
    exact ⟨htoken, Option.some.inj hverdict⟩
  · rw [if_neg htoken] at hverdict
    cases hverdict

/-- Whoever waits next for a pane whose signal was taken in with the status 202 finds it at once,
unless the last to wait for the pane had given up, and then finds nothing. -/
theorem accepted_found {before between : List Operation} {asked : Request} {report : Report}
    (hreport : asked.report? = some report)
    (haccepted : (((start port token reachable).after before).answer asked).1.status = 202)
    (hbetween : ∀ op ∈ between, ¬ op.Concerns token report.pane) :
    (¬ (start port token reachable).Forsaken report.pane before →
        ((start port token reachable).after (before ++ .request asked :: between)).finds
          report.pane = .holding report.signal) ∧
      ((start port token reachable).Forsaken report.pane before →
        ((start port token reachable).after (before ++ .request asked :: between)).finds
          report.pane = .waiting) := by
  obtain ⟨htoken, hreceive⟩ := receive_of_accepted hreport haccepted
  rw [registry_start] at hreceive
  rw [(ledger_start port token reachable before).1] at htoken
  have hsigned : (Operation.request asked).signed? token = some report := by
    simp [Operation.signed?, hreport, Option.filter_some, htoken]
  have hsignal : (Operation.request asked).signalOf? token report.pane = some report.signal := by
    rw [Operation.signalOf?_of_signed hsigned, if_pos rfl]
  obtain ⟨a, ha⟩ := (Ledger.sound_ofSignals token before).stands report.pane
  have hfinds : ((start port token reachable).after (before ++ .request asked :: between)).finds
      report.pane = (a.told report.signal).signal?.elim .waiting .holding := by
    have hnext : (Ledger.ofSignals token (before ++ [.request asked])).registry.Stands report.pane
        (a.told report.signal) := by
      rw [Ledger.ofSignals_concat]
      exact ha.perform_of_signalOf? id hsignal
    rw [finds_eq, registry_start, List.append_cons, (stands_append hnext hbetween).early]
  rw [hfinds, forsaken_iff]
  cases a with
  | idle =>
    refine ⟨fun _ => rfl, ?_⟩
    rintro ⟨first, rest, hwaits, -⟩
    cases ha.unique hwaits.stands
  | kept old =>
    refine ⟨fun _ => rfl, ?_⟩
    rintro ⟨first, rest, hwaits, -⟩
    cases ha.unique hwaits.stands
  | finished =>
    have hfinished := ha.finished
    simp [Registry.receive, hfinished, Standing.isFinished] at hreceive
  | awaited channel =>
    -- A receiver that still listens would have been given the signal.
    obtain ⟨first, rest, hwaits, rfl⟩ := exists_waitsSince ha
    have hdrop : .drop (registered first).length ∈ rest := by
      by_cases hdrop : .drop (registered first).length ∈ rest
      · exact hdrop
      · have hcontent := hwaits.content
        rw [if_neg hdrop] at hcontent
        rw [Registry.receive_waiting _ ha.finished ha.waiter hcontent] at hreceive
        cases hreceive
    exact ⟨fun hnot => absurd ⟨first, rest, hwaits, hdrop⟩ hnot, fun _ => rfl⟩

/-- A pane whose first signal was delivered and looked at. -/
def servedOnce : List Operation :=
  [.register "%1", .request (.hook "/complete" "%251" "secret"), .poll 0]

/-- The next signal of that pane is found by whoever waits for it next, whatever happens to another
pane in the meantime. -/
theorem accepted_found_again :
    ((start 4000 "secret" true).after (servedOnce ++ .request (.hook "/exited" "%251" "secret") ::
      [.register "%2", .drop 1])).finds "%1" = .holding .exited := by
  have hreport : (Request.hook "/exited" "%251" "secret").report? =
      some ⟨"%1", "secret", .exited⟩ := by
    decide +kernel
  have haccepted : (((start 4000 "secret" true).after servedOnce).answer
      (.hook "/exited" "%251" "secret")).1.status = 202 := by
    decide +kernel
  have hbetween : ∀ op ∈ [Operation.register "%2", .drop 1], ¬ op.Concerns "secret" "%1" := by
    decide +kernel
  have hnobody : (Ledger.ofSignals "secret" servedOnce).registry.waiters.find? "%1" = none := by
    decide +kernel
  refine (accepted_found hreport haccepted hbetween).1 ?_
  rw [forsaken_iff]
  rintro ⟨first, rest, hwaits, -⟩
  rw [hwaits.stands.waiter] at hnobody
  cases hnobody

/-- A signal that comes for a receiver that was dropped is taken in, and nobody finds it. -/
theorem accepted_lost :
    ¬ ∀ (before between : List Operation) (asked : Request) (report : Report),
      asked.report? = some report →
      (((start 4000 "secret" true).after before).answer asked).1.status = 202 →
      (∀ op ∈ between, ¬ op.Concerns "secret" report.pane) →
      ((start 4000 "secret" true).after (before ++ .request asked :: between)).finds report.pane =
        .holding report.signal := by
  intro h
  have hfound := h [.register "%1", .drop 0] [] (.hook "/complete" "%251" "secret")
    ⟨"%1", "secret", .complete⟩ (by decide +kernel) (by decide +kernel) nofun
  rw [finds_eq, registry_start] at hfound
  revert hfound
  decide +kernel

end Listener

end Runbook.Callback
