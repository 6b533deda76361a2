import Runbook.Proofs.Callback.Standing

/-!
# What becomes of channels

Each time somebody begins to wait for a pane, a channel is opened.  This file says what operations
do to the channels that there are, and whose channels they are.

* `Channel.Change` lists all that an operation can do to a channel, and `Registry.perform_channel`
  says that it does nothing else;
* `Registry.length_perform` and `Registry.register_channel` say which channels are opened, and what
  is in them;
* `registered` is for whom operations open channels, and `Ledger.sound` says that a pane is waited
  for at a channel of its own.
-/

namespace Runbook.Callback

variable {σ : Type}

/-! ## What an operation can do to a channel -/

/-- What an operation can do to the channel `id` of a registry. -/
inductive Channel.Change (token : String) (stamp : Signal → σ) (r : Registry σ) (op : Operation)
    (id : Nat) : Channel σ → Channel σ → Prop
  /-- It is left alone. -/
  | stays (content : Channel σ) (hpoll : op ≠ .poll id) (hdrop : op ≠ .drop id) :
    Change token stamp r op id content content
  /-- It is given up. -/
  | dropped (content : Channel σ) (hop : op = .drop id) :
    Change token stamp r op id content .dropped
  /-- Somebody looks into it. -/
  | polled (content : Channel σ) (hop : op = .poll id) :
    Change token stamp r op id content content.taken
  /-- Whoever waits there is sent away. -/
  | hungUp (pane : String) (content : Channel σ) (hop : op = .register pane ∨ op = .unregister pane)
    (hwaiter : r.waiters.find? pane = some id) :
    Change token stamp r op id content content.hangUp
  /-- The signal that is waited for there arrives. -/
  | arrived (report : Report) (hop : op.signed? token = some report)
    (hopen : r.finished.contains report.pane = false)
    (hwaiter : r.waiters.find? report.pane = some id) :
    Change token stamp r op id .waiting (.holding (stamp report.signal))

namespace Registry

variable {r : Registry σ} {pane token : String} {stamp : Signal → σ} {op : Operation} {id : Nat}
  {content : Channel σ}

theorem release_channels (h : r.channels[id]? = some content) :
    (r.release pane).channels[id]? =
      some (if r.waiters.find? pane = some id then content.hangUp else content) := by
  unfold release
  cases hwaiter : r.waiters.find? pane with
  | none => simpa using h
  | some other =>
    show (r.channels.modify other Channel.hangUp)[id]? = _
    rw [List.getElem?_modify, h]
    by_cases heq : other = id <;> simp [heq]

theorem length_release : (r.release pane).channels.length = r.channels.length := by
  unfold release
  split
  · exact List.length_modify ..
  · rfl

theorem length_receive (pane : String) (signal : σ) :
    (r.receive pane signal).2.channels.length = r.channels.length := by
  unfold receive
  split
  · rfl
  · split
    · rfl
    · split
      · exact List.length_modify ..
      · rfl

/-- A signal arrives in a channel if somebody waits there. -/
theorem receive_waiting (signal : σ) (hopen : r.finished.contains pane = false)
    (hwaiter : r.waiters.find? pane = some id) (h : r.channels[id]? = some .waiting) :
    r.receive pane signal =
      (.delivered, { r with
        channels := r.channels.modify id (fun _ => .holding signal)
        waiters := r.waiters.erase pane }) := by
  unfold receive
  simp [hopen, hwaiter, h, onChannel]

/-- No other channel changes when a signal comes. -/
theorem receive_channel (pane : String) (signal : σ) (h : r.channels[id]? = some content) :
    (r.receive pane signal).2.channels[id]? = some content ∨
      (content = .waiting ∧ r.finished.contains pane = false ∧ r.waiters.find? pane = some id) := by
  unfold receive
  split
  · exact .inl h
  · next hopen =>
    split
    · exact .inl h
    · next other hwaiter =>
      split
      · next hwaiting =>
        by_cases heq : other = id
        · subst heq
          rw [hwaiting] at h
          exact .inr ⟨(Option.some.inj h).symm, Bool.eq_false_iff.2 hopen, hwaiter⟩
        · left
          show (r.channels.modify other _)[id]? = _
          rw [List.getElem?_modify_ne _ _ heq, h]
      · exact .inl h

/-- A channel changes in one of the ways that are listed. -/
theorem perform_channel (token : String) (stamp : Signal → σ) (op : Operation)
    (h : r.channels[id]? = some content) :
    ∃ after, (r.perform token stamp op).channels[id]? = some after ∧
      Channel.Change token stamp r op id content after := by
  obtain ⟨hlt, -⟩ := List.getElem?_eq_some_iff.1 h
  cases op with
  | register pane =>
    rw [perform_register]
    cases hearly : r.early.find? pane with
    | some signal =>
      rw [register_of_some hearly]
      refine ⟨content, ?_, .stays content nofun nofun⟩
      rw [List.getElem?_append_left hlt, h]
    | none =>
      rw [register_of_none hearly]
      refine ⟨_, (List.getElem?_append_left (by rwa [length_release])).trans (release_channels h),
        ?_⟩
      split
      · next hwaiter => exact .hungUp pane content (.inl rfl) hwaiter
      · exact .stays content nofun nofun
  | unregister pane =>
    refine ⟨_, release_channels h, ?_⟩
    split
    · next hwaiter => exact .hungUp pane content (.inr rfl) hwaiter
    · exact .stays content nofun nofun
  | drop other =>
    refine ⟨if other = id then .dropped else content, ?_, ?_⟩
    · show (r.channels.modify other fun _ => .dropped)[id]? = _
      rw [List.getElem?_modify, h]
      rfl
    · split
      · next heq => exact .dropped content (heq ▸ rfl)
      · next hne => exact .stays content nofun (fun heq => hne (Operation.drop.inj heq))
  | poll other =>
    refine ⟨if other = id then content.taken else content, ?_, ?_⟩
    · show (r.channels.modify other Channel.taken)[id]? = _
      rw [List.getElem?_modify, h]
      by_cases heq : other = id <;> simp [heq]
    · split
      · next heq => exact .polled content (heq ▸ rfl)
      · next hne => exact .stays content (fun heq => hne (Operation.poll.inj heq)) nofun
  | request asked =>
    cases hsigned : (Operation.request asked).signed? token with
    | none =>
      rw [perform_request_of_unsigned hsigned]
      exact ⟨content, h, .stays content nofun nofun⟩
    | some report =>
      rw [perform_of_signed hsigned]
      rcases receive_channel report.pane (stamp report.signal) h with hold | ⟨rfl, hopen, hwaiter⟩
      · exact ⟨content, hold, .stays content nofun nofun⟩
      · rw [receive_waiting _ hopen hwaiter h]
        refine ⟨.holding (stamp report.signal), ?_, .arrived report hsigned hopen hwaiter⟩
        rw [List.getElem?_modify_eq, h]
        rfl

/-- Only an operation that waits for a pane opens a channel. -/
theorem length_perform (token : String) (stamp : Signal → σ) (op : Operation) :
    (r.perform token stamp op).channels.length =
      r.channels.length + op.registers?.toList.length := by
  cases op with
  | register pane =>
    rw [perform_register]
    cases hearly : r.early.find? pane with
    | some signal => simp [register_of_some hearly, Operation.registers?]
    | none => simp [register_of_none hearly, Operation.registers?, length_release]
  | unregister pane => exact length_release
  | drop id => exact List.length_modify ..
  | poll id => exact List.length_modify ..
  | request asked =>
    cases hsigned : (Operation.request asked).signed? token with
    | none =>
      rw [perform_request_of_unsigned hsigned]
      rfl
    | some report =>
      rw [perform_of_signed hsigned]
      exact length_receive ..

theorem perform_fresh (token : String) (stamp : Signal → σ) (op : Operation)
    (h : r.channels[id]? = none)
    (hafter : ∃ after, (r.perform token stamp op).channels[id]? = some after) :
    ∃ pane, op = .register pane ∧ id = r.channels.length := by
  obtain ⟨after, hafter⟩ := hafter
  obtain ⟨hlt, -⟩ := List.getElem?_eq_some_iff.1 hafter
  have hle := List.getElem?_eq_none_iff.1 h
  rw [length_perform] at hlt
  cases op with
  | register pane =>
    have hone : (Operation.register pane).registers?.toList.length = 1 := rfl
    exact ⟨pane, rfl, by omega⟩
  | _ => exact absurd hlt (Nat.not_lt.2 hle)

theorem register_fst (r : Registry σ) (pane : String) :
    (r.register pane).1 = r.channels.length := by
  unfold register
  dsimp only
  cases r.early.find? pane <;> rfl

/-- What is in a channel that was just opened. -/
theorem register_channel (r : Registry σ) (pane : String) :
    (r.register pane).2.channels[r.channels.length]? =
      some ((r.early.find? pane).elim .waiting .holding) := by
  cases hearly : r.early.find? pane with
  | some signal => simp [register_of_some hearly]
  | none =>
    have hlength : (r.release pane).channels.length = r.channels.length := length_release
    rw [register_of_none hearly, ← hlength]
    simp

/-! ## Whose channels there are -/

/-- Every pane stands in some way, and the channels are those of the panes that were waited for. -/
structure Sound (r : Registry σ) (panes : List String) : Prop where
  /-- Each channel was opened for a pane. -/
  length : r.channels.length = panes.length
  /-- Every pane stands in some way. -/
  stands : ∀ pane, ∃ a, r.Stands pane a
  /-- Whoever waits for a pane does so at a channel of its own. -/
  waiter : ∀ pane id, r.waiters.find? pane = some id → panes[id]? = some pane

theorem sound_empty : (empty : Registry σ).Sound [] :=
  ⟨rfl, fun pane => ⟨.idle, stands_empty pane⟩, nofun⟩

variable {panes : List String}

theorem Sound.perform (h : r.Sound panes) (token : String) (stamp : Signal → σ) (op : Operation) :
    (r.perform token stamp op).Sound (panes ++ op.registers?.toList) where
  length := by rw [length_perform, h.length, List.length_append]
  stands pane :=
    have ⟨a, ha⟩ := h.stands pane
    ⟨a.next token pane stamp r.channels.length op, ha.perform token stamp op⟩
  waiter pane id hid := by
    obtain ⟨a, ha⟩ := h.stands pane
    have hnext : (a.next token pane stamp r.channels.length op).channel? = some id :=
      (ha.perform token stamp op).waiter.symm.trans hid
    rcases Standing.channel?_next hnext with hold | ⟨rfl, rfl⟩
    · have hpane := h.waiter pane id (ha.waiter.trans hold)
      obtain ⟨hlt, -⟩ := List.getElem?_eq_some_iff.1 hpane
      rw [List.getElem?_append_left hlt, hpane]
    · rw [h.length]
      simp [Operation.registers?]

theorem Sound.early_perform {kept : σ} (h : r.Sound panes)
    (hearly : (r.perform token stamp op).early.find? pane = some kept) :
    (r.early.find? pane = some kept ∧ ¬ op.Concerns token pane) ∨
      ∃ signal, op.signalOf? token pane = some signal ∧ kept = stamp signal ∧
        r.finished.contains pane = false ∧ r.waiters.find? pane = none := by
  obtain ⟨a, ha⟩ := h.stands pane
  rw [ha.early, ha.finished, ha.waiter]
  exact Standing.signal?_next ((ha.perform token stamp op).early.symm.trans hearly)

theorem Sound.finished_perform (h : r.Sound panes)
    (hopen : (r.perform token stamp op).finished.contains pane = false) :
    op ≠ .unregister pane ∧ (op = .register pane ∨ r.finished.contains pane = false) := by
  obtain ⟨a, ha⟩ := h.stands pane
  rw [ha.finished]
  exact Standing.isFinished_next ((ha.perform token stamp op).finished.symm.trans hopen)

/-- Two panes are not waited for at one channel. -/
theorem Sound.waiter_unique (h : r.Sound panes) {other : String}
    (hpane : r.waiters.find? pane = some id) (hother : r.waiters.find? other = some id) :
    other = pane :=
  Option.some.inj ((h.waiter other id hother).symm.trans (h.waiter pane id hpane))

/-- A channel at which somebody waits only changes if it is given up or looked into, or by what is
about the pane. -/
theorem Sound.channel_of_not_concerns (h : r.Sound panes) (hwaiter : r.waiters.find? pane = some id)
    (hquiet : ¬ op.Concerns token pane) (hcontent : r.channels[id]? = some content) :
    (r.perform token stamp op).channels[id]? =
      some (if op = .drop id then .dropped else if op = .poll id then content.taken
        else content) := by
  obtain ⟨after, hafter, hchange⟩ := perform_channel token stamp op hcontent
  rw [hafter]
  cases hchange with
  | stays _ hpoll hdrop => rw [if_neg hdrop, if_neg hpoll]
  | dropped _ hop => rw [if_pos hop]
  | polled _ hop =>
    subst hop
    simp
  | hungUp other _ hop hother =>
    obtain rfl := h.waiter_unique hwaiter hother
    exact absurd (hop.imp (fun hop => hop) Or.inl) hquiet
  | arrived report hop hopen hother =>
    obtain rfl := h.waiter_unique hwaiter hother
    exact absurd (.inr (.inr ⟨report.signal, by simp [Operation.signalOf?_of_signed hop]⟩)) hquiet

end Registry

/-- The panes that operations wait for, one for each channel that they open. -/
def registered (ops : List Operation) : List String := ops.filterMap Operation.registers?

theorem registered_concat (ops : List Operation) (op : Operation) :
    registered (ops ++ [op]) = registered ops ++ op.registers?.toList := by
  unfold registered
  rw [List.filterMap_append]
  cases h : op.registers? <;> simp [h]

theorem Ledger.sound (token : String) (stamp : Nat → Signal → σ) (ops : List Operation) :
    (Ledger.ofOps token stamp ops).registry.Sound (registered ops) := by
  induction ops using List.reverseRecOn with
  | nil => exact Registry.sound_empty
  | append_singleton ops op ih =>
    rw [Ledger.ofOps_concat, registered_concat]
    exact ih.perform token (stamp ops.length) op

theorem Ledger.sound_ofSignals (token : String) (ops : List Operation) :
    (ofSignals token ops).registry.Sound (registered ops) :=
  sound token (fun _ => id) ops

/-- A receiver is told the number of its channel. -/
theorem Listener.registered_start (port : Nat) (token : String) (reachable : Bool)
    (ops : List Operation) (pane : String) (channel : Nat) :
    (((start port token reachable).after ops).perform (.register pane)).1 = .registered channel ↔
      (registered ops).length = channel := by
  show Answer.registered (((start port token reachable).after ops).registry.register pane).1 = _ ↔ _
  rw [Registry.register_fst, registry_start, (Ledger.sound_ofSignals token ops).length]
  constructor
  · intro h
    exact Answer.registered.inj h
  · rintro rfl
    rfl

end Runbook.Callback
