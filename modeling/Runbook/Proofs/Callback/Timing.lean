import Runbook.Proofs.Callback.Ledger

/-!
# Waiting before and after a signal comes

A program may report before anybody waits for its pane.  This file says which signal a receiver
yields then: of those that came before it began to wait, the last, since only one signal of a pane
is kept; and if there was none, the first that comes.

* `signalsOf` is what a pane reports, in order;
* `stands_of_unregistered` and `stands_append` say how a pane stands that nobody waits for, and one
  that is left alone;
* `Serves` says where a receiver stands with the signal that it is due, and `Serves.perform` what an
  operation makes of that;
* `Listener.yields_timing` is the result, and `Listener.yields_timing_last` a receiver that does not
  yield the first signal of its pane.
-/

namespace Runbook.Callback

/-- The signals of a pane that operations bring with the token, in order. -/
def signalsOf (token pane : String) (ops : List Operation) : List Signal :=
  ops.filterMap (·.signalOf? token pane)

variable {token pane : String} {op : Operation} {channel : Nat} {ops first rest : List Operation}

theorem signalsOf_append :
    signalsOf token pane (ops ++ rest) = signalsOf token pane ops ++ signalsOf token pane rest :=
  List.filterMap_append

theorem signalsOf_concat :
    signalsOf token pane (ops ++ [op]) =
      signalsOf token pane ops ++ (op.signalOf? token pane).toList := by
  rw [signalsOf_append]
  unfold signalsOf
  cases h : op.signalOf? token pane <;> simp [h]

/-! ## Panes that are left alone -/

/-- A pane that nobody waits for, and that is not done with, has its last signal kept. -/
theorem stands_of_unregistered (token : String)
    (h : ∀ op ∈ ops, op ≠ .register pane ∧ op ≠ .unregister pane) :
    (Ledger.ofSignals token ops).registry.Stands pane
      ((signalsOf token pane ops).getLast?.elim .idle .kept) := by
  induction ops using List.reverseRecOn with
  | nil => exact Registry.stands_empty pane
  | append_singleton ops op ih =>
    obtain ⟨hregister, hunregister⟩ := h op (by simp)
    have hstands := ih fun op hop => h op (List.mem_append_left _ hop)
    rw [Ledger.ofSignals_concat, signalsOf_concat]
    cases hsignal : op.signalOf? token pane with
    | some signal =>
      have hnext := hstands.perform_of_signalOf? id hsignal
      rw [Option.toList_some, List.getLast?_concat]
      cases hlast : (signalsOf token pane ops).getLast? with
      | none =>
        rw [hlast] at hnext
        exact hnext
      | some old =>
        rw [hlast] at hnext
        exact hnext
    | none =>
      rw [Option.toList_none, List.append_nil]
      exact hstands.perform_of_not_concerns
        (Operation.not_concerns hregister hunregister hsignal)

/-- How a pane stands does not change by what is not about it. -/
theorem stands_append {a : Standing Signal}
    (h : (Ledger.ofSignals token ops).registry.Stands pane a)
    (hrest : ∀ op ∈ rest, ¬ op.Concerns token pane) :
    (Ledger.ofSignals token (ops ++ rest)).registry.Stands pane a := by
  induction rest using List.reverseRecOn with
  | nil => simpa using h
  | append_singleton rest op ih =>
    rw [← List.append_assoc, Ledger.ofSignals_concat]
    have hstands := ih fun op hop => hrest op (List.mem_append_left _ hop)
    exact hstands.perform_of_not_concerns (hrest op (by simp))

/-! ## The signal that a receiver is due -/

/-- The signals that were taken out of a channel, in order. -/
def Ledger.yields {σ : Type} (ledger : Ledger σ) (channel : Nat) : List σ :=
  (ledger.given.filter (·.1 = channel)).map (·.2)

namespace Ledger

variable {σ : Type} {ledger : Ledger σ} {stamp : Signal → σ} {signal : σ}

theorem yields_poll (h : ledger.registry.channels[channel]? = some (.holding signal)) :
    (ledger.perform token stamp (.poll channel)).yields channel =
      ledger.yields channel ++ [signal] := by
  have hgiven : ledger.registry.given? (.poll channel) = some (channel, signal) := by
    show (((ledger.registry.channels[channel]?).getD .closed).held?).map _ = _
    rw [h]
    rfl
  unfold yields perform
  rw [hgiven]
  simp

/-- Otherwise nothing is taken out of the channel. -/
theorem yields_perform (h : ∀ signal, op = .poll channel →
      ledger.registry.channels[channel]? ≠ some (.holding signal)) :
    (ledger.perform token stamp op).yields channel = ledger.yields channel := by
  unfold yields perform
  cases hgiven : ledger.registry.given? op with
  | none => simp
  | some entry =>
    obtain ⟨other, signal⟩ := entry
    obtain ⟨rfl, hholding⟩ := Registry.holding_of_given? hgiven
    by_cases hid : other = channel
    · subst hid
      exact absurd hholding (h signal rfl)
    · simp [hid]

theorem yields_of_held?_eq_none {content : Channel σ}
    (h : ledger.registry.channels[channel]? = some content) (hheld : content.held? = none) :
    (ledger.perform token stamp op).yields channel = ledger.yields channel := by
  refine yields_perform fun signal _ hholding => ?_
  obtain rfl : content = .holding signal := Option.some.inj (h.symm.trans hholding)
  cases hheld

/-- Nothing was taken out of a channel that is not there yet. -/
theorem yields_fresh (hsingle : ledger.Single)
    (hfresh : ledger.registry.channels[channel]? = none) : ledger.yields channel = [] := by
  unfold yields
  rw [List.map_eq_nil_iff, List.filter_eq_nil_iff]
  rintro ⟨other, signal⟩ hmem hother
  obtain rfl : other = channel := by simpa using hother
  rcases hsingle.shut other signal hmem with hshut | hshut <;> rw [hfresh] at hshut <;> cases hshut

end Ledger

/-- Where the receiver of a pane stands that is due this signal, or none yet. -/
inductive Serves (ledger : Ledger Signal) (pane : String) (channel : Nat) : Option Signal → Prop
  /-- It waits. -/
  | waits (hstands : ledger.registry.Stands pane (.awaited channel))
    (hwaiting : ledger.registry.channels[channel]? = some .waiting)
    (hnone : ledger.yields channel = []) : Serves ledger pane channel none
  /-- The signal has arrived. -/
  | holds (signal : Signal) (hholding : ledger.registry.channels[channel]? = some (.holding signal))
    (hnone : ledger.yields channel = []) : Serves ledger pane channel (some signal)
  /-- It has yielded the signal. -/
  | gave (signal : Signal) (hclosed : ledger.registry.channels[channel]? = some .closed)
    (hgave : ledger.yields channel = [signal]) : Serves ledger pane channel (some signal)

variable {ledger : Ledger Signal} {due : Option Signal} {panes : List String}

/-- The first signal that comes is the one that a receiver is due. -/
theorem Serves.perform (h : Serves ledger pane channel due) (token : String)
    (hsound : ledger.registry.Sound panes) (hregister : op ≠ .register pane)
    (hunregister : op ≠ .unregister pane) (hdrop : op ≠ .drop channel) :
    Serves (ledger.perform token id op) pane channel (due.or (op.signalOf? token pane)) := by
  cases h with
  | waits hstands hwaiting hnone =>
    rw [Option.none_or]
    have hyields : (ledger.perform token id op).yields channel = [] := by
      rw [Ledger.yields_of_held?_eq_none hwaiting rfl, hnone]
    cases hsignal : op.signalOf? token pane with
    | some signal =>
      refine .holds signal ?_ hyields
      show (ledger.registry.perform token id op).channels[channel]? = _
      rw [Registry.perform_of_signed (Operation.signalOf?_eq_some.1 hsignal),
        Registry.receive_waiting _ hstands.finished hstands.waiter hwaiting]
      simp [hwaiting]
    | none =>
      have hquiet := Operation.not_concerns hregister hunregister hsignal
      refine .waits (hstands.perform_of_not_concerns hquiet) ?_ hyields
      refine (hsound.channel_of_not_concerns hstands.waiter hquiet hwaiting).trans ?_
      rw [if_neg hdrop]
      split <;> rfl
  | holds signal hholding hnone =>
    rw [Option.some_or]
    by_cases hpoll : op = .poll channel
    · subst hpoll
      refine .gave signal ?_ ?_
      · show (ledger.registry.channels.modify channel Channel.taken)[channel]? = _
        simp [hholding, Channel.taken]
      · rw [Ledger.yields_poll hholding, hnone]
        rfl
    · refine .holds signal ?_ ?_
      · obtain ⟨after, hafter, hchange⟩ := Registry.perform_channel token id op hholding
        cases hchange with
        | stays => exact hafter
        | dropped _ hop => exact absurd hop hdrop
        | polled _ hop => exact absurd hop hpoll
        | hungUp => exact hafter
      · rw [Ledger.yields_perform fun _ hop => absurd hop hpoll, hnone]
  | gave signal hclosed hgave =>
    rw [Option.some_or]
    refine .gave signal ?_ ?_
    · obtain ⟨after, hafter, hchange⟩ := Registry.perform_channel token id op hclosed
      cases hchange with
      | dropped _ hop => exact absurd hop hdrop
      | _ => exact hafter
    · rw [Ledger.yields_of_held?_eq_none hclosed rfl, hgave]

/-- What a receiver yields once somebody has looked into its channel. -/
theorem Serves.yields_poll (h : Serves ledger pane channel due) (token : String) :
    (ledger.perform token id (.poll channel)).yields channel = due.toList := by
  cases h with
  | waits hstands hwaiting hnone =>
    rw [Ledger.yields_of_held?_eq_none hwaiting rfl, hnone]
    rfl
  | holds signal hholding hnone =>
    rw [Ledger.yields_poll hholding, hnone]
    rfl
  | gave signal hclosed hgave =>
    rw [Ledger.yields_of_held?_eq_none hclosed rfl, hgave]
    rfl

/-- A receiver begins with the signal that is kept for its pane. -/
theorem serves_register {a : Standing Signal} (token : String) (hsingle : ledger.Single)
    (hstands : ledger.registry.Stands pane a) :
    Serves (ledger.perform token id (.register pane)) pane ledger.registry.channels.length
      a.signal? := by
  have hnone : (ledger.perform token id (.register pane)).yields
      ledger.registry.channels.length = [] := by
    rw [Ledger.yields_perform nofun, Ledger.yields_fresh hsingle]
    simp
  have hchannel := Registry.register_channel ledger.registry pane
  have hregister := hstands.register
  rw [hstands.early] at hchannel
  cases a with
  | kept signal => exact .holds signal hchannel hnone
  | _ => exact .waits hregister hchannel hnone

/-- A receiver is due the signal that was kept for its pane, and otherwise the first that comes. -/
theorem serves_append (h : Serves (Ledger.ofSignals token ops) pane channel due)
    (hrest : ∀ op ∈ rest, op ≠ .register pane ∧ op ≠ .unregister pane)
    (hdrop : .drop channel ∉ rest) :
    Serves (Ledger.ofSignals token (ops ++ rest)) pane channel
      (due.or (signalsOf token pane rest).head?) := by
  induction rest using List.reverseRecOn with
  | nil => simpa [signalsOf] using h
  | append_singleton rest op ih =>
    obtain ⟨hregister, hunregister⟩ := hrest op (by simp)
    have hserves := ih (fun op hop => hrest op (List.mem_append_left _ hop))
      (fun hop => hdrop (List.mem_append_left _ hop))
    have hkeeps : op ≠ .drop channel := by
      rintro rfl
      exact hdrop (by simp)
    have hnext := hserves.perform token (Ledger.sound_ofSignals token (ops ++ rest)) hregister
      hunregister hkeeps
    rw [← List.append_assoc, Ledger.ofSignals_concat, signalsOf_concat, List.head?_append,
      ← Option.or_assoc]
    cases hsignal : op.signalOf? token pane with
    | none => simpa [hsignal] using hnext
    | some signal => simpa [hsignal] using hnext

namespace Listener

variable (port : Nat) (reachable : Bool)

theorem yields_start (ops : List Operation) :
    (start port token reachable).yields ops channel =
      (Ledger.ofSignals token ops).yields channel := by
  unfold yields Ledger.yields
  rw [(ledger_start port token reachable ops).2]

/-- Of the signals of a pane that came before it was waited for, the receiver yields the last, and
if there was none, the first that comes after; so it yields the first of all if at most one came
before. -/
theorem yields_timing {before after : List Operation}
    (hbefore : ∀ op ∈ before, op ≠ .register pane ∧ op ≠ .unregister pane)
    (hafter : ∀ op ∈ after, op ≠ .register pane ∧ op ≠ .unregister pane)
    (hdrop : .drop channel ∉ after)
    (hregistered : (((start port token reachable).after before).perform (.register pane)).1 =
      .registered channel) :
    (start port token reachable).yields (before ++ .register pane :: after ++ [.poll channel])
          channel =
        ((signalsOf token pane before).getLast?.or (signalsOf token pane after).head?).toList ∧
      ((signalsOf token pane before).length ≤ 1 →
        (start port token reachable).yields (before ++ .register pane :: after ++ [.poll channel])
          channel = (signalsOf token pane (before ++ after)).head?.toList) := by
  have hchannel : (Ledger.ofSignals token before).registry.channels.length = channel := by
    rw [(Ledger.sound_ofSignals token before).length]
    exact (registered_start ..).1 hregistered
  have hkept : ((signalsOf token pane before).getLast?.elim .idle .kept : Standing Signal).signal? =
      (signalsOf token pane before).getLast? := by
    cases (signalsOf token pane before).getLast? <;> rfl
  have hsingle : (Ledger.ofSignals token before).Single := Ledger.single token _ before
  have hstart := serves_register token hsingle (stands_of_unregistered token hbefore)
  rw [hkept, ← Ledger.ofSignals_concat, hchannel] at hstart
  have hserves := (serves_append hstart hafter hdrop).yields_poll token
  have hyields : (start port token reachable).yields
      (before ++ .register pane :: after ++ [.poll channel]) channel =
        ((signalsOf token pane before).getLast?.or (signalsOf token pane after).head?).toList := by
    rw [yields_start, Ledger.ofSignals_concat, List.append_cons]
    exact hserves
  refine ⟨hyields, fun hle => ?_⟩
  have hone : (signalsOf token pane before).getLast? = (signalsOf token pane before).head? := by
    cases hsignals : signalsOf token pane before with
    | nil => rfl
    | cons signal more =>
      rw [hsignals, List.length_cons] at hle
      obtain rfl : more = [] := List.length_eq_zero_iff.1 (by omega)
      rfl
  rw [hyields, hone, signalsOf_append, List.head?_append]

/-- Pane `%2` is waited for, and pane `%1` has reported. -/
def beforeWaiting : List Operation :=
  [.register "%2", .request (.hook "/exited" "%251" "secret")]

/-- Both panes report while there is a receiver of pane `%1`. -/
def afterWaiting : List Operation :=
  [.request (.hook "/complete" "%252" "secret"), .poll 1,
    .request (.hook "/complete" "%251" "secret")]

/-- A receiver yields the signal that came before it began to wait, and not the later one. -/
theorem yields_timing_exited :
    (start 4000 "secret" true).yields
      (beforeWaiting ++ .register "%1" :: afterWaiting ++ [.poll 1]) 1 = [.exited] := by
  have hbefore : ∀ op ∈ beforeWaiting, op ≠ .register "%1" ∧ op ≠ .unregister "%1" := by
    decide +kernel
  have hafter : ∀ op ∈ afterWaiting, op ≠ .register "%1" ∧ op ≠ .unregister "%1" := by
    decide +kernel
  have hdrop : .drop 1 ∉ afterWaiting := by decide +kernel
  have hregistered : (((start 4000 "secret" true).after beforeWaiting).perform (.register "%1")).1 =
      .registered 1 :=
    (registered_start ..).2 (by decide +kernel)
  have hle : (signalsOf "secret" "%1" beforeWaiting).length ≤ 1 := by decide +kernel
  exact ((yields_timing 4000 true hbefore hafter hdrop hregistered).2 hle).trans (by decide +kernel)

/-- A receiver may not yield the first signal of its pane. -/
theorem yields_timing_last :
    ¬ ∀ (pane : String) (before after : List Operation) (channel : Nat),
      (∀ op ∈ before, op ≠ .register pane ∧ op ≠ .unregister pane) →
      (∀ op ∈ after, op ≠ .register pane ∧ op ≠ .unregister pane) → .drop channel ∉ after →
      (((start 4000 "secret" true).after before).perform (.register pane)).1 = .registered channel →
      (start 4000 "secret" true).yields (before ++ .register pane :: after ++ [.poll channel])
        channel = (signalsOf "secret" pane (before ++ after)).head?.toList := by
  intro h
  let twice : List Operation :=
    [.request (.hook "/complete" "%251" "secret"), .request (.hook "/exited" "%251" "secret")]
  have hbefore : ∀ op ∈ twice, op ≠ .register "%1" ∧ op ≠ .unregister "%1" := by decide +kernel
  have hregistered : (((start 4000 "secret" true).after twice).perform (.register "%1")).1 =
      .registered 0 :=
    (registered_start ..).2 (by decide +kernel)
  have hfirst := h "%1" twice [] 0 hbefore nofun nofun hregistered
  rw [yields_start] at hfirst
  revert hfirst
  decide +kernel

end Listener

end Runbook.Callback
