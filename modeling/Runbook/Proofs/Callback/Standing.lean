import Runbook.Proofs.Callback.Operations

/-!
# Where a pane stands

At any time a pane stands in one of four ways: nothing is known of it, somebody waits for it, a
signal of it is kept, or it is done with.  This file says what each operation makes of that.

* `Standing.next` is what an operation makes of the standing of a pane;
* `Registry.Stands` reads the standing of a pane off the three maps of a registry, and
  `Registry.Stands.perform` says that an operation makes of it what `Standing.next` says;
* `Registry.separate_of_stands` says that no pane is in two of the maps then.
-/

namespace Runbook.Callback

variable {σ : Type}

/-! ## Standings -/

/-- How a pane stands. -/
inductive Standing (σ : Type) where
  /-- Nobody waits for it, and no signal of it is kept. -/
  | idle
  /-- Somebody waits for it at a channel. -/
  | awaited (channel : Nat)
  /-- A signal of it is kept. -/
  | kept (signal : σ)
  /-- It is done with. -/
  | finished

namespace Standing

/-- The channel at which somebody waits. -/
def channel? : Standing σ → Option Nat
  | .awaited channel => some channel
  | _ => none

/-- The signal that is kept. -/
def signal? : Standing σ → Option σ
  | .kept signal => some signal
  | _ => none

/-- Whether the pane is done with. -/
def isFinished : Standing σ → Bool
  | .finished => true
  | _ => false

/-- A signal of the pane comes. -/
def told (signal : σ) : Standing σ → Standing σ
  | .idle | .kept _ => .kept signal
  | .awaited _ => .idle
  | .finished => .finished

/-- Somebody waits for the pane at a new channel. -/
def waitedFor (channel : Nat) : Standing σ → Standing σ
  | .kept _ => .idle
  | _ => .awaited channel

/-- What an operation makes of the standing of a pane; `channel` is the next new channel. -/
def next (token pane : String) (stamp : Signal → σ) (channel : Nat) (op : Operation)
    (a : Standing σ) : Standing σ :=
  match op.signalOf? token pane with
  | some signal => a.told (stamp signal)
  | none =>
    if op = .register pane then a.waitedFor channel
    else if op = .unregister pane then .finished
    else a

variable {token pane : String} {stamp : Signal → σ} {channel id : Nat} {op : Operation}
  {a : Standing σ} {kept : σ} {signal : Signal}

theorem next_of_signalOf? (h : op.signalOf? token pane = some signal) :
    a.next token pane stamp channel op = a.told (stamp signal) := by
  unfold next
  rw [h]

theorem next_register : a.next token pane stamp channel (.register pane) = a.waitedFor channel := by
  unfold next
  rw [Operation.signalOf?_of_unsigned rfl]
  simp

theorem next_unregister : a.next token pane stamp channel (.unregister pane) = .finished := by
  unfold next
  rw [Operation.signalOf?_of_unsigned rfl]
  simp

theorem next_of_not_concerns (h : ¬ op.Concerns token pane) :
    a.next token pane stamp channel op = a := by
  unfold next
  cases hsignal : op.signalOf? token pane with
  | some signal => exact absurd (.inr (.inr ⟨signal, hsignal⟩)) h
  | none =>
    dsimp only
    rw [if_neg fun hop => h (.inl hop), if_neg fun hop => h (.inr (.inl hop))]

/-- Somebody waits for a pane because of an operation that waits for it. -/
theorem channel?_next (h : (a.next token pane stamp channel op).channel? = some id) :
    a.channel? = some id ∨ op = .register pane ∧ id = channel := by
  by_cases hconcerns : op.Concerns token pane
  · rcases hconcerns with rfl | rfl | ⟨signal, hsignal⟩
    · rw [next_register] at h
      cases a with
      | kept signal => cases h
      | _ => exact .inr ⟨rfl, (Option.some.inj h).symm⟩
    · rw [next_unregister] at h
      cases h
    · rw [next_of_signalOf? hsignal] at h
      cases a <;> cases h
  · rw [next_of_not_concerns hconcerns] at h
    exact .inl h

/-- A signal is kept because it was, or because it comes while nobody waits for the pane, and the
pane is not done with. -/
theorem signal?_next (h : (a.next token pane stamp channel op).signal? = some kept) :
    (a.signal? = some kept ∧ ¬ op.Concerns token pane) ∨
      ∃ signal, op.signalOf? token pane = some signal ∧ kept = stamp signal ∧
        a.isFinished = false ∧ a.channel? = none := by
  by_cases hconcerns : op.Concerns token pane
  · rcases hconcerns with rfl | rfl | ⟨signal, hsignal⟩
    · rw [next_register] at h
      cases a <;> cases h
    · rw [next_unregister] at h
      cases h
    · rw [next_of_signalOf? hsignal] at h
      refine .inr ⟨signal, hsignal, ?_⟩
      cases a with
      | idle => exact ⟨(Option.some.inj h).symm, rfl, rfl⟩
      | kept old => exact ⟨(Option.some.inj h).symm, rfl, rfl⟩
      | _ => cases h
  · rw [next_of_not_concerns hconcerns] at h
    exact .inl ⟨h, hconcerns⟩

/-- A pane is no longer done with as soon as it is waited for. -/
theorem isFinished_next (h : (a.next token pane stamp channel op).isFinished = false) :
    op ≠ .unregister pane ∧ (op = .register pane ∨ a.isFinished = false) := by
  by_cases hconcerns : op.Concerns token pane
  · rcases hconcerns with rfl | rfl | ⟨signal, hsignal⟩
    · exact ⟨nofun, .inl rfl⟩
    · rw [next_unregister] at h
      cases h
    · rw [next_of_signalOf? hsignal] at h
      refine ⟨?_, .inr ?_⟩
      · rintro rfl
        cases hsignal
      · cases a <;> first | rfl | exact h
  · rw [next_of_not_concerns hconcerns] at h
    exact ⟨fun hop => hconcerns (.inr (.inl hop)), .inr h⟩

end Standing

namespace Registry

variable {r : Registry σ} {pane other token : String} {a b : Standing σ} {stamp : Signal → σ}
  {op : Operation} {id : Nat}

/-- How a pane stands in a registry. -/
structure Stands (r : Registry σ) (pane : String) (a : Standing σ) : Prop where
  /-- Who waits for it. -/
  waiter : r.waiters.find? pane = a.channel?
  /-- What is kept for it. -/
  early : r.early.find? pane = a.signal?
  /-- Whether it is done with. -/
  finished : r.finished.contains pane = a.isFinished

/-- A pane stands in one way only. -/
theorem Stands.unique (ha : r.Stands pane a) (hb : r.Stands pane b) : a = b := by
  have hchannel : a.channel? = b.channel? := ha.waiter.symm.trans hb.waiter
  have hsignal : a.signal? = b.signal? := ha.early.symm.trans hb.early
  have hfinished : a.isFinished = b.isFinished := ha.finished.symm.trans hb.finished
  cases a <;> cases b <;>
    simp_all [Standing.channel?, Standing.signal?, Standing.isFinished]

/-- No pane is in two of the maps. -/
def Separate (r : Registry σ) : Prop :=
  ∀ pane, ¬ (r.waiters.contains pane = true ∧ r.early.contains pane = true) ∧
    ¬ (r.waiters.contains pane = true ∧ r.finished.contains pane = true) ∧
    ¬ (r.early.contains pane = true ∧ r.finished.contains pane = true)

/-- If every pane stands in one way, then no pane is in two of the maps. -/
theorem separate_of_stands (h : ∀ pane, ∃ a, r.Stands pane a) : r.Separate := by
  intro pane
  obtain ⟨a, hwaiter, hearly, hfinished⟩ := h pane
  unfold KeyMap.contains at hfinished ⊢
  rw [hwaiter, hearly, hfinished]
  cases a <;> simp [Standing.channel?, Standing.signal?, Standing.isFinished]

theorem stands_empty (pane : String) : (empty : Registry σ).Stands pane .idle := ⟨rfl, rfl, rfl⟩

/-! ## What operations make of the maps -/

theorem release_waiters :
    (r.release pane).waiters.find? other =
      if other = pane then none else r.waiters.find? other := by
  unfold release
  split
  · exact KeyMap.find?_erase ..
  · by_cases h : other = pane
    · simpa [h]
    · simp [h]

@[simp] theorem release_early : (r.release pane).early = r.early := by
  unfold release
  split <;> rfl

@[simp] theorem release_finished : (r.release pane).finished = r.finished := by
  unfold release
  split <;> rfl

/-- Whoever waits for a pane with a signal that is kept has it at once. -/
theorem register_of_some {signal : σ} (h : r.early.find? pane = some signal) :
    (r.register pane).2 =
      { r with
        channels := r.channels ++ [.holding signal]
        early := r.early.erase pane
        finished := r.finished.erase pane } := by
  simp [Registry.register, h]

/-- Otherwise whoever waited for it before is sent away. -/
theorem register_of_none (h : r.early.find? pane = none) :
    (r.register pane).2 =
      { r with
        channels := (r.release pane).channels ++ [.waiting]
        waiters := (r.release pane).waiters.insert pane r.channels.length
        finished := r.finished.erase pane } := by
  unfold Registry.register release
  dsimp only
  rw [h]
  cases r.waiters.find? pane <;> rfl

theorem Stands.register (h : r.Stands pane a) :
    (r.register pane).2.Stands pane (a.waitedFor r.channels.length) := by
  obtain ⟨hwaiter, hearly, hfinished⟩ := h
  have hback : (r.finished.erase pane).contains pane = false := by simp [KeyMap.contains_erase]
  cases a with
  | kept signal =>
    rw [register_of_some hearly]
    exact ⟨hwaiter, KeyMap.find?_erase_self .., hback⟩
  | idle =>
    rw [register_of_none hearly]
    exact ⟨KeyMap.find?_insert_self .., hearly, hback⟩
  | awaited id =>
    rw [register_of_none hearly]
    exact ⟨KeyMap.find?_insert_self .., hearly, hback⟩
  | finished =>
    rw [register_of_none hearly]
    exact ⟨KeyMap.find?_insert_self .., hearly, hback⟩

theorem Stands.register_of_ne (h : r.Stands pane a) (hne : pane ≠ other) :
    (r.register other).2.Stands pane a := by
  obtain ⟨hwaiter, hearly, hfinished⟩ := h
  have hback : (r.finished.erase other).contains pane = a.isFinished := by
    simpa [KeyMap.contains_erase, hne] using hfinished
  cases hother : r.early.find? other with
  | some signal =>
    rw [register_of_some hother]
    refine ⟨hwaiter, ?_, hback⟩
    rw [KeyMap.find?_erase_of_ne _ hne, hearly]
  | none =>
    rw [register_of_none hother]
    refine ⟨?_, hearly, hback⟩
    rw [KeyMap.find?_insert_of_ne _ _ hne, release_waiters, if_neg hne, hwaiter]

theorem stands_unregister : (r.unregister pane).Stands pane .finished := by
  refine ⟨?_, ?_, ?_⟩
  · simp [Registry.unregister, release_waiters, Standing.channel?]
  · simp [Registry.unregister, Standing.signal?]
  · simp [Registry.unregister, KeyMap.contains_insert, Standing.isFinished]

theorem Stands.unregister_of_ne (h : r.Stands pane a) (hne : pane ≠ other) :
    (r.unregister other).Stands pane a := by
  obtain ⟨hwaiter, hearly, hfinished⟩ := h
  refine ⟨?_, ?_, ?_⟩
  · simpa [Registry.unregister, release_waiters, hne] using hwaiter
  · simpa [Registry.unregister, KeyMap.find?_erase, hne] using hearly
  · simpa [Registry.unregister, KeyMap.contains_insert, hne] using hfinished

theorem Stands.receive (h : r.Stands pane a) (signal : σ) :
    (r.receive pane signal).2.Stands pane (a.told signal) := by
  obtain ⟨hwaiter, hearly, hfinished⟩ := h
  unfold Registry.receive
  cases a with
  | finished => simpa [hfinished, Standing.isFinished] using ⟨hwaiter, hearly, hfinished⟩
  | awaited id =>
    simp only [hfinished, Standing.isFinished, hwaiter, Standing.channel?]
    have hgone : (r.waiters.erase pane).find? pane = none := KeyMap.find?_erase_self ..
    cases r.channels[id]? with
    | none => exact ⟨hgone, hearly, hfinished⟩
    | some content => cases content <;> exact ⟨hgone, hearly, hfinished⟩
  | idle =>
    simp only [hfinished, Standing.isFinished, hwaiter, Standing.channel?]
    exact ⟨hwaiter, KeyMap.find?_insert_self .., hfinished⟩
  | kept old =>
    simp only [hfinished, Standing.isFinished, hwaiter, Standing.channel?]
    exact ⟨hwaiter, KeyMap.find?_insert_self .., hfinished⟩

theorem Stands.receive_of_ne (h : r.Stands pane a) (hne : pane ≠ other) (signal : σ) :
    (r.receive other signal).2.Stands pane a := by
  obtain ⟨hwaiter, hearly, hfinished⟩ := h
  unfold Registry.receive
  split
  · exact ⟨hwaiter, hearly, hfinished⟩
  · split
    · refine ⟨hwaiter, ?_, hfinished⟩
      rw [KeyMap.find?_insert_of_ne _ _ hne, hearly]
    · have hstays : (r.waiters.erase other).find? pane = a.channel? := by
        rw [KeyMap.find?_erase_of_ne _ hne, hwaiter]
      split
      · exact ⟨hstays, hearly, hfinished⟩
      · exact ⟨hstays, hearly, hfinished⟩

/-! ## One operation -/

/-- What an operation makes of the standing of a pane. -/
theorem Stands.perform (h : r.Stands pane a) (token : String) (stamp : Signal → σ)
    (op : Operation) :
    (r.perform token stamp op).Stands pane (a.next token pane stamp r.channels.length op) := by
  unfold Standing.next
  cases op with
  | register other =>
    rw [Operation.signalOf?_of_unsigned rfl, perform_register]
    by_cases heq : other = pane
    · subst heq
      simpa using h.register
    · simpa [heq] using h.register_of_ne (Ne.symm heq)
  | unregister other =>
    rw [Operation.signalOf?_of_unsigned rfl, perform_unregister]
    by_cases heq : other = pane
    · subst heq
      simpa using stands_unregister
    · simpa [heq] using h.unregister_of_ne (Ne.symm heq)
  | drop id => exact ⟨h.waiter, h.early, h.finished⟩
  | poll id => exact ⟨h.waiter, h.early, h.finished⟩
  | request asked =>
    cases hsigned : (Operation.request asked).signed? token with
    | none =>
      rw [Operation.signalOf?_of_unsigned hsigned, perform_request_of_unsigned hsigned]
      simpa using h
    | some report =>
      rw [Operation.signalOf?_of_signed hsigned, perform_of_signed hsigned]
      by_cases heq : report.pane = pane
      · subst heq
        simpa using h.receive _
      · simpa [heq] using h.receive_of_ne (Ne.symm heq) _

theorem Stands.perform_of_not_concerns (h : r.Stands pane a) (hquiet : ¬ op.Concerns token pane) :
    (r.perform token stamp op).Stands pane a := by
  have hstands := h.perform token stamp op
  rwa [Standing.next_of_not_concerns hquiet] at hstands

theorem Stands.perform_of_signalOf? {signal : Signal} (h : r.Stands pane a) (stamp : Signal → σ)
    (hsignal : op.signalOf? token pane = some signal) :
    (r.perform token stamp op).Stands pane (a.told (stamp signal)) := by
  have hstands := h.perform token stamp op
  rwa [Standing.next_of_signalOf? hsignal] at hstands

end Registry

end Runbook.Callback
