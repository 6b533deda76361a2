import Runbook.Proofs.Callback.Channels

/-!
# What a ledger tells

A ledger has the signals that were taken out of the channels of a registry, each with its channel.
Where they came from is seen if signals carry it with them.

* `Ledger.map_ofOps` says that what signals carry makes no difference to what happens to them;
* `Registry.Fills` lists the ways in which a signal gets into a channel, and `Ledger.has_perform`
  says that a channel holds or has given nothing else;
* `Ledger.single` says that a channel gives at most one signal.
-/

namespace Runbook.Callback

variable {σ τ : Type}

/-! ## What signals carry -/

/-- Applies a function to the signal in a channel. -/
def Channel.map (f : σ → τ) : Channel σ → Channel τ
  | .waiting => .waiting
  | .holding signal => .holding (f signal)
  | .closed => .closed
  | .dropped => .dropped

namespace Channel

variable (f : σ → τ) (content : Channel σ)

theorem map_hangUp : content.hangUp.map f = (content.map f).hangUp := by
  cases content <;> rfl

theorem map_taken : content.taken.map f = (content.map f).taken := by
  cases content <;> rfl

theorem held?_map : (content.map f).held? = content.held?.map f := by
  cases content <;> rfl

end Channel

/-- Applies a function to all signals. -/
def Registry.map (f : σ → τ) (r : Registry σ) : Registry τ :=
  ⟨r.channels.map (Channel.map f), r.waiters, r.early.map f, r.finished⟩

namespace Registry

variable (f : σ → τ) (r : Registry σ) (pane : String) (id : Nat)

theorem map_onChannel {g : Channel σ → Channel σ} {g' : Channel τ → Channel τ}
    (h : ∀ content, (g content).map f = g' (content.map f)) :
    (r.onChannel id g).map f = (r.map f).onChannel id g' := by
  have hchannels : (r.channels.modify id g).map (Channel.map f) =
      (r.channels.map (Channel.map f)).modify id g' := by
    refine List.ext_getElem? fun n => ?_
    rw [List.getElem?_map, List.getElem?_modify, List.getElem?_modify, List.getElem?_map]
    cases r.channels[n]? with
    | none => rfl
    | some content => by_cases hid : id = n <;> simp [hid, h]
  unfold onChannel map
  rw [hchannels]

theorem map_release : (r.release pane).map f = (r.map f).release pane := by
  have hwaiters : (r.map f).waiters = r.waiters := rfl
  unfold release
  rw [hwaiters]
  cases r.waiters.find? pane with
  | none => rfl
  | some id =>
    dsimp only
    rw [← map_onChannel f r id (Channel.map_hangUp f)]
    rfl

theorem map_register : (r.register pane).2.map f = ((r.map f).register pane).2 := by
  have hlater : (r.map f).early.find? pane = (r.early.find? pane).map f := KeyMap.find?_map ..
  cases hearly : r.early.find? pane with
  | some signal =>
    rw [hearly] at hlater
    rw [register_of_some hearly, register_of_some hlater]
    simp [map, Channel.map, KeyMap.map_erase]
  | none =>
    rw [hearly] at hlater
    rw [register_of_none hearly, register_of_none hlater, ← map_release]
    simp [map, Channel.map]

theorem map_unregister : (r.unregister pane).map f = (r.map f).unregister pane := by
  unfold unregister
  rw [← map_release]
  simp [map, KeyMap.map_erase]

theorem map_receive (signal : σ) :
    (r.receive pane signal).2.map f = ((r.map f).receive pane (f signal)).2 := by
  have hfinished : (r.map f).finished = r.finished := rfl
  have hwaiters : (r.map f).waiters = r.waiters := rfl
  have hchannels (id : Nat) : (r.map f).channels[id]? = (r.channels[id]?).map (Channel.map f) :=
    List.getElem?_map ..
  unfold receive
  rw [hfinished, hwaiters]
  split
  · rfl
  · cases r.waiters.find? pane with
    | none => simp [map, KeyMap.map_insert]
    | some id =>
      dsimp only
      rw [hchannels]
      cases r.channels[id]? with
      | none => rfl
      | some content =>
        cases content with
        | waiting => exact map_onChannel f _ id (fun _ => rfl)
        | _ => rfl

theorem map_perform (token : String) (stamp : Signal → σ) (op : Operation) :
    (r.perform token stamp op).map f =
      (r.map f).perform token (fun signal => f (stamp signal)) op := by
  cases op with
  | register pane => exact map_register f r pane
  | unregister pane => exact map_unregister f r pane
  | drop id => exact map_onChannel f r id (fun _ => rfl)
  | poll id => exact map_onChannel f r id (Channel.map_taken f)
  | request asked =>
    cases hsigned : (Operation.request asked).signed? token with
    | none => rw [perform_request_of_unsigned hsigned, perform_request_of_unsigned hsigned]
    | some report =>
      rw [perform_of_signed hsigned, perform_of_signed hsigned]
      exact map_receive f r report.pane _

theorem map_given? (op : Operation) :
    (r.map f).given? op = (r.given? op).map fun entry => (entry.1, f entry.2) := by
  cases op with
  | poll id =>
    have hcontent : ((r.map f).poll id).1 = (r.poll id).1.map f := by
      show (((r.channels.map _)[id]?).getD _) = _
      rw [List.getElem?_map]
      show _ = ((r.channels[id]?).getD .closed).map f
      cases r.channels[id]? <;> rfl
    show ((r.map f).poll id).1.held?.map _ = ((r.poll id).1.held?.map _).map _
    rw [hcontent, Channel.held?_map]
    cases (r.poll id).1.held? <;> rfl
  | _ => rfl

end Registry

namespace Ledger

/-- Applies a function to all signals. -/
def map (f : σ → τ) (ledger : Ledger σ) : Ledger τ :=
  ⟨ledger.registry.map f, ledger.given.map fun entry => (entry.1, f entry.2)⟩

/-- What signals carry makes no difference to what happens to them. -/
theorem map_ofOps (f : σ → τ) (token : String) (stamp : Nat → Signal → σ) (ops : List Operation) :
    (ofOps token stamp ops).map f =
      ofOps token (fun number signal => f (stamp number signal)) ops := by
  induction ops using List.reverseRecOn with
  | nil => rfl
  | append_singleton ops op ih =>
    rw [ofOps_concat, ofOps_concat, ← ih]
    unfold perform map
    rw [Registry.map_perform, Registry.map_given?, List.map_append]
    cases (ofOps token stamp ops).registry.given? op <;> rfl

end Ledger

/-! ## How signals get into channels -/

namespace Registry

variable {r : Registry σ} {token : String} {stamp : Signal → σ} {op : Operation} {id : Nat}
  {signal : σ}

/-- An operation puts a signal into the channel `id` of a registry. -/
inductive Fills (r : Registry σ) (token : String) (stamp : Signal → σ) (op : Operation) (id : Nat) :
    σ → Prop
  /-- Somebody begins to wait there, and the signal was kept. -/
  | found (pane : String) (signal : σ) (hop : op = .register pane) (hid : id = r.channels.length)
    (hearly : r.early.find? pane = some signal) : Fills r token stamp op id signal
  /-- The signal comes, and is waited for there. -/
  | arrived (report : Report) (hop : op.signed? token = some report)
    (hwaiter : r.waiters.find? report.pane = some id) :
    Fills r token stamp op id (stamp report.signal)

/-- What an operation takes out was in the channel into which it looks. -/
theorem holding_of_given? (h : r.given? op = some (id, signal)) :
    op = .poll id ∧ r.channels[id]? = some (.holding signal) := by
  cases op with
  | poll other =>
    obtain ⟨held, hheld, hpair⟩ := Option.map_eq_some_iff.1 h
    obtain ⟨rfl, rfl⟩ := Prod.mk.inj hpair
    refine ⟨rfl, ?_⟩
    have hheld : ((r.channels[other]?).getD .closed).held? = some held := hheld
    cases hcontent : r.channels[other]? with
    | none =>
      rw [hcontent] at hheld
      cases hheld
    | some content =>
      rw [hcontent] at hheld
      cases content with
      | holding signal =>
        cases hheld
        rfl
      | _ => cases hheld
  | _ => cases h

/-- What is in a channel was there before, or was just put there. -/
theorem holding_perform (h : (r.perform token stamp op).channels[id]? = some (.holding signal)) :
    r.channels[id]? = some (.holding signal) ∨ Fills r token stamp op id signal := by
  cases hcontent : r.channels[id]? with
  | some content =>
    obtain ⟨after, hafter, hchange⟩ := perform_channel token stamp op hcontent
    have hholding : after = .holding signal := Option.some.inj (hafter.symm.trans h)
    cases hchange with
    | stays => exact .inl (congrArg some hholding)
    | dropped => cases hholding
    | polled => cases content <;> cases hholding
    | hungUp =>
      cases content with
      | holding old => exact .inl (congrArg some hholding)
      | _ => cases hholding
    | arrived report hop hopen hwaiter =>
      exact .inr (Channel.holding.inj hholding ▸ .arrived report hop hwaiter)
  | none =>
    obtain ⟨pane, rfl, rfl⟩ := perform_fresh token stamp op hcontent ⟨_, h⟩
    refine .inr (.found pane signal rfl rfl ?_)
    have hfresh := (register_channel r pane).symm.trans h
    cases hearly : r.early.find? pane with
    | none =>
      rw [hearly] at hfresh
      cases hfresh
    | some kept =>
      rw [hearly] at hfresh
      cases hfresh
      rfl

/-- No signal is in a channel, and none will be. -/
def Shut (r : Registry σ) (id : Nat) : Prop :=
  r.channels[id]? = some .closed ∨ r.channels[id]? = some .dropped

theorem Shut.perform (h : r.Shut id) : (r.perform token stamp op).Shut id := by
  rcases h with h | h
  · obtain ⟨after, hafter, hchange⟩ := perform_channel token stamp op h
    cases hchange with
    | dropped => exact .inr hafter
    | _ => exact .inl hafter
  · obtain ⟨after, hafter, hchange⟩ := perform_channel token stamp op h
    cases hchange <;> exact .inr hafter

/-- A channel that gives a signal is shut. -/
theorem shut_of_given? (h : r.given? op = some (id, signal)) :
    (r.perform token stamp op).Shut id := by
  obtain ⟨rfl, hholding⟩ := holding_of_given? h
  left
  show (r.channels.modify id Channel.taken)[id]? = _
  rw [List.getElem?_modify, hholding]
  simp [Channel.taken]

end Registry

namespace Ledger

/-- A channel holds a signal, or has given it. -/
def Has (ledger : Ledger σ) (id : Nat) (signal : σ) : Prop :=
  ledger.registry.channels[id]? = some (.holding signal) ∨ (id, signal) ∈ ledger.given

variable {ledger : Ledger σ} {token : String} {stamp : Signal → σ} {op : Operation} {id : Nat}
  {signal : σ}

theorem mem_given_perform (h : (id, signal) ∈ (ledger.perform token stamp op).given) :
    (id, signal) ∈ ledger.given ∨ ledger.registry.given? op = some (id, signal) := by
  rcases List.mem_append.1 h with h | h
  · exact .inl h
  · exact .inr (Option.mem_toList.1 h)

/-- What a channel has it had before, or it was just put there. -/
theorem has_perform (h : (ledger.perform token stamp op).Has id signal) :
    ledger.Has id signal ∨ ledger.registry.Fills token stamp op id signal := by
  rcases h with h | h
  · rcases Registry.holding_perform h with hold | hnew
    · exact .inl (.inl hold)
    · exact .inr hnew
  · rcases mem_given_perform h with hold | hgiven
    · exact .inl (.inr hold)
    · exact .inl (.inl (Registry.holding_of_given? hgiven).2)

/-! ## A channel gives one signal -/

/-- Channels that have given a signal are shut, and none has given two. -/
structure Single (ledger : Ledger σ) : Prop where
  /-- Whatever gave a signal is shut. -/
  shut : ∀ id signal, (id, signal) ∈ ledger.given → ledger.registry.Shut id
  /-- No channel gave two signals. -/
  once : (ledger.given.map (·.1)).Nodup

theorem Single.perform (h : ledger.Single) : (ledger.perform token stamp op).Single where
  shut id signal hmem := by
    rcases mem_given_perform hmem with hold | hgiven
    · exact (h.shut id signal hold).perform
    · exact Registry.shut_of_given? hgiven
  once := by
    unfold Ledger.perform
    cases hgiven : ledger.registry.given? op with
    | none => simpa using h.once
    | some entry =>
      obtain ⟨id, signal⟩ := entry
      have hholding := (Registry.holding_of_given? hgiven).2
      have hnew : id ∉ ledger.given.map (·.1) := by
        intro hmem
        obtain ⟨⟨_, old⟩, hold, rfl⟩ := List.mem_map.1 hmem
        rcases h.shut _ old hold with hshut | hshut <;> rw [hshut] at hholding <;> cases hholding
      rw [Option.toList_some, List.map_append, List.map_singleton]
      refine List.nodup_append.2 ⟨h.once, by simp, ?_⟩
      rintro other hmem _ hid rfl
      obtain rfl : other = id := List.mem_singleton.1 hid
      exact hnew hmem

theorem single (token : String) (stamp : Nat → Signal → σ) (ops : List Operation) :
    (ofOps token stamp ops).Single := by
  induction ops using List.reverseRecOn with
  | nil => exact ⟨nofun, List.nodup_nil⟩
  | append_singleton ops op ih =>
    rw [ofOps_concat]
    exact ih.perform

end Ledger

end Runbook.Callback
