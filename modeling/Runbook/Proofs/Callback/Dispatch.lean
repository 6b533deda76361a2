import Runbook.Proofs.Callback.Ledger

/-!
# Which callback a receiver gets

Whatever is done with a listener, and in whatever order, a signal goes to one receiver at most, and
to one that waits for its pane.  Signals that a pane sent before it was done with do not reach
anybody who waits for it later.  What may reach a later one is a signal that came after the pane was
waited for again.

* `Letter` is a signal with the number of the operation that brought it, and `Ledger.ofLetters` the
  ledger that tells of each signal where it came from;
* `Letter.Sent`, `Opens` and `Reopened` say where letters and channels come from;
* `Addressed` is the invariant, with a lemma for what an operation makes of each part of it;
* `Listener.dispatches` is the result, and `Listener.dispatches_earlier` a signal that came
  before the wait that gets it, though the pane was done with before that.
-/

namespace Runbook.Callback

/-! ## Letters and where they come from -/

/-- A signal with the number of the operation that brought it. -/
structure Letter where
  /-- The signal. -/
  signal : Signal
  /-- The number of the operation. -/
  number : Nat
  deriving DecidableEq, Repr

/-- The letter of a signal that the operation of this number brings. -/
def Letter.stamp (number : Nat) (signal : Signal) : Letter := ⟨signal, number⟩

/-- The ledger in which each signal carries the number of the operation that brought it. -/
def Ledger.ofLetters (token : String) (ops : List Operation) : Ledger Letter :=
  .ofOps token Letter.stamp ops

theorem Ledger.ofLetters_concat (token : String) (ops : List Operation) (op : Operation) :
    ofLetters token (ops ++ [op]) = (ofLetters token ops).perform token (.stamp ops.length) op :=
  ofOps_concat ..

/-- An operation brings this letter of a pane. -/
def Letter.Sent (token : String) (ops : List Operation) (pane : String) (letter : Letter) : Prop :=
  ∃ op, ops[letter.number]? = some op ∧ op.signalOf? token pane = some letter.signal

/-- An operation waits for a pane, and opens this channel. -/
def Opens (ops : List Operation) (opened : Nat) (pane : String) (id : Nat) : Prop :=
  ops[opened]? = some (.register pane) ∧ (registered (ops.take opened)).length = id

/-- Whenever a pane was done with before `limit`, it was waited for again before `number`. -/
def Reopened (ops : List Operation) (pane : String) (limit number : Nat) : Prop :=
  ∀ gone < limit, ops[gone]? = some (.unregister pane) →
    ∃ back, gone < back ∧ back < number ∧ ops[back]? = some (.register pane)

section

variable {token pane other : String} {ops : List Operation} {op : Operation} {letter : Letter}
  {opened limit number id : Nat}

theorem getElem?_concat_of_eq_some {n : Nat} {first : Operation} (h : ops[n]? = some first) :
    (ops ++ [op])[n]? = some first := by
  obtain ⟨hlt, -⟩ := List.getElem?_eq_some_iff.1 h
  rw [List.getElem?_append_left hlt, h]

theorem Letter.Sent.lt (h : letter.Sent token ops pane) : letter.number < ops.length := by
  obtain ⟨op, hop, -⟩ := h
  exact (List.getElem?_eq_some_iff.1 hop).1

theorem Letter.Sent.concat (h : letter.Sent token ops pane) :
    letter.Sent token (ops ++ [op]) pane := by
  obtain ⟨first, hfirst, hsignal⟩ := h
  exact ⟨first, getElem?_concat_of_eq_some hfirst, hsignal⟩

theorem Letter.sent_concat {signal : Signal} (h : op.signalOf? token pane = some signal) :
    Letter.Sent token (ops ++ [op]) pane (.stamp ops.length signal) :=
  ⟨op, List.getElem?_concat_length .., h⟩

/-- One operation does not bring letters of two panes. -/
theorem Letter.Sent.pane_eq {more : Letter} (h : letter.Sent token ops pane)
    (hmore : more.Sent token ops other) (hnumber : letter.number = more.number) : pane = other := by
  obtain ⟨op, hop, hsignal⟩ := h
  obtain ⟨op', hop', hsignal'⟩ := hmore
  obtain rfl : op = op' := Option.some.inj (hop.symm.trans (hnumber ▸ hop'))
  have hreport := Operation.signalOf?_eq_some.1 hsignal
  have hreport' := Operation.signalOf?_eq_some.1 hsignal'
  exact congrArg Report.pane (Option.some.inj (hreport.symm.trans hreport'))

theorem Opens.lt (h : Opens ops opened pane id) : opened < ops.length :=
  (List.getElem?_eq_some_iff.1 h.1).1

theorem Opens.concat (h : Opens ops opened pane id) : Opens (ops ++ [op]) opened pane id := by
  refine ⟨getElem?_concat_of_eq_some h.1, ?_⟩
  rw [List.take_append_of_le_length (Nat.le_of_lt h.lt), h.2]

theorem opens_concat : Opens (ops ++ [.register pane]) ops.length pane (registered ops).length := by
  refine ⟨List.getElem?_concat_length .., ?_⟩
  rw [List.take_left' rfl]

/-- Every channel was opened by an operation that waits for its pane. -/
theorem exists_opens (h : (registered ops)[id]? = some pane) :
    ∃ opened, Opens ops opened pane id := by
  induction ops using List.reverseRecOn with
  | nil => cases h
  | append_singleton ops op ih =>
    rw [registered_concat] at h
    by_cases hlt : id < (registered ops).length
    · rw [List.getElem?_append_left hlt] at h
      obtain ⟨opened, hopens⟩ := ih h
      exact ⟨opened, hopens.concat⟩
    · rw [List.getElem?_append_right (Nat.le_of_not_lt hlt)] at h
      cases op with
      | register first =>
        obtain ⟨hzero, rfl⟩ : id - (registered ops).length = 0 ∧ first = pane := by
          simpa [Operation.registers?, List.getElem?_singleton] using h
        obtain rfl : id = (registered ops).length := by omega
        exact ⟨ops.length, opens_concat⟩
      | _ => cases h

theorem length_registered_take_succ (h : ops[opened]? = some (.register pane)) :
    (registered (ops.take (opened + 1))).length = (registered (ops.take opened)).length + 1 := by
  rw [List.take_add_one, h, Option.toList_some, registered_concat]
  simp [Operation.registers?]

theorem Opens.lt_of_lt {opened' id' : Nat} (h : Opens ops opened pane id)
    (h' : Opens ops opened' other id') (hlt : opened < opened') : id < id' := by
  have hsplit := List.take_append_drop (opened + 1) (ops.take opened')
  rw [List.take_take, Nat.min_eq_left (by omega)] at hsplit
  rw [← h.2, ← h'.2, ← hsplit]
  unfold registered
  rw [List.filterMap_append, List.length_append]
  have := length_registered_take_succ h.1
  unfold registered at this
  omega

/-- Two operations do not open one channel. -/
theorem Opens.unique {opened' : Nat} (h : Opens ops opened pane id)
    (h' : Opens ops opened' other id) : opened = opened' ∧ pane = other := by
  obtain hlt | rfl | hgt := Nat.lt_trichotomy opened opened'
  · exact absurd (h.lt_of_lt h' hlt) (Nat.lt_irrefl id)
  · exact ⟨rfl, Operation.register.inj (Option.some.inj (h.1.symm.trans h'.1))⟩
  · exact absurd (h'.lt_of_lt h hgt) (Nat.lt_irrefl id)

theorem Reopened.mono (h : Reopened ops pane limit number) {limit' number' : Nat}
    (hlimit : limit' ≤ limit) (hnumber : number ≤ number') : Reopened ops pane limit' number' := by
  intro gone hgone hop
  obtain ⟨back, hlt, hback, hwait⟩ := h gone (by omega) hop
  exact ⟨back, hlt, by omega, hwait⟩

theorem Reopened.concat (h : Reopened ops pane limit number) (hlimit : limit ≤ ops.length) :
    Reopened (ops ++ [op]) pane limit number := by
  intro gone hgone hop
  rw [List.getElem?_append_left (by omega)] at hop
  obtain ⟨back, hlt, hback, hwait⟩ := h gone hgone hop
  exact ⟨back, hlt, hback, getElem?_concat_of_eq_some hwait⟩

theorem Reopened.concat_of_ne (h : Reopened ops pane ops.length number)
    (hop : op ≠ .unregister pane) : Reopened (ops ++ [op]) pane (ops ++ [op]).length number := by
  intro gone hgone hgoneop
  rw [List.length_append, List.length_singleton] at hgone
  by_cases hlast : gone = ops.length
  · subst hlast
    rw [List.getElem?_concat_length] at hgoneop
    exact absurd (Option.some.inj hgoneop) hop
  · exact h.concat (Nat.le_refl _) gone (by omega) hgoneop

/-- A pane that is waited for now is reopened after every earlier time. -/
theorem reopened_of_opens (h : Opens ops opened pane id) (hlt : opened < number) :
    Reopened ops pane opened number :=
  fun _ hgone _ => ⟨opened, hgone, hlt, h.1⟩

/-! ## The invariant -/

/-- Where the signals in a ledger of letters come from. -/
structure Addressed (token : String) (ops : List Operation) (ledger : Ledger Letter) : Prop where
  /-- A pane that is not done with was waited for since. -/
  reopened : ∀ pane, ledger.registry.finished.contains pane = false →
    Reopened ops pane ops.length ops.length
  /-- What is kept for a pane was sent by it, and it was not done with since. -/
  kept : ∀ pane letter, ledger.registry.early.find? pane = some letter →
    letter.Sent token ops pane ∧ Reopened ops pane ops.length letter.number
  /-- What a channel has was sent by its pane, and after the pane was waited for again. -/
  held : ∀ id letter, ledger.Has id letter → ∃ pane opened, Opens ops opened pane id ∧
    letter.Sent token ops pane ∧ Reopened ops pane opened letter.number
  /-- What a channel has is not kept. -/
  apart : ∀ pane id letter more, ledger.registry.early.find? pane = some letter →
    ledger.Has id more → letter.number ≠ more.number
  /-- Two channels do not have one letter. -/
  alone : ∀ id id' letter more, ledger.Has id letter → ledger.Has id' more →
    letter.number = more.number → id = id'

theorem addressed_nil : Addressed token [] ⟨.empty, []⟩ where
  reopened _ _ := nofun
  kept _ _ := nofun
  held _ _ h := by rcases h with h | h <;> cases h
  apart _ _ _ _ := nofun
  alone _ _ _ _ h := by rcases h with h | h <;> cases h

variable {ledger : Ledger Letter}

theorem Addressed.number_lt (h : Addressed token ops ledger) (hhas : ledger.Has id letter) :
    letter.number < ops.length := by
  obtain ⟨pane, opened, -, hsent, -⟩ := h.held id letter hhas
  exact hsent.lt

/-- What just got into a channel is in no other. -/
theorem Addressed.number_ne_of_fills (h : Addressed token ops ledger) {id' : Nat} {more : Letter}
    (hfills : ledger.registry.Fills token (.stamp ops.length) op id letter)
    (hold : ledger.Has id' more) : letter.number ≠ more.number := by
  rcases hfills with ⟨pane, _, rfl, -, hearly⟩ | ⟨report, -, -⟩
  · exact h.apart pane id' letter more hearly hold
  · exact Nat.ne_of_gt (h.number_lt hold)

theorem Addressed.alone_perform (h : Addressed token ops ledger) {id' : Nat} {more : Letter}
    (hhas : (ledger.perform token (.stamp ops.length) op).Has id letter)
    (hmore : (ledger.perform token (.stamp ops.length) op).Has id' more)
    (hnumber : letter.number = more.number) : id = id' := by
  rcases Ledger.has_perform hhas with hold | hnew
  · rcases Ledger.has_perform hmore with hold' | hnew'
    · exact h.alone id id' letter more hold hold' hnumber
    · exact absurd hnumber.symm (h.number_ne_of_fills hnew' hold)
  · rcases Ledger.has_perform hmore with hold' | hnew'
    · exact absurd hnumber (h.number_ne_of_fills hnew hold')
    · rcases hnew with ⟨_, _, rfl, rfl, -⟩ | ⟨report, hop, hwaiter⟩
      · rcases hnew' with ⟨_, _, -, rfl, -⟩ | ⟨_, hop, -⟩
        · rfl
        · cases hop
      · rcases hnew' with ⟨_, _, rfl, -, -⟩ | ⟨report', hop', hwaiter'⟩
        · cases hop
        · obtain rfl : report = report' := Option.some.inj (hop.symm.trans hop')
          exact Option.some.inj (hwaiter.symm.trans hwaiter')

section Step

/-! What one more operation makes of each part of the invariant. -/

variable (hsound : ledger.registry.Sound (registered ops)) (h : Addressed token ops ledger)
include hsound h

theorem Addressed.reopened_perform
    (hopen : (ledger.registry.perform token (.stamp ops.length) op).finished.contains pane =
      false) :
    Reopened (ops ++ [op]) pane (ops ++ [op]).length (ops ++ [op]).length := by
  obtain ⟨hne, rfl | hbefore⟩ := hsound.finished_perform hopen
  · intro gone hgone hgoneop
    rw [List.length_append, List.length_singleton] at hgone ⊢
    by_cases hlast : gone = ops.length
    · subst hlast
      rw [List.getElem?_concat_length] at hgoneop
      cases hgoneop
    · exact ⟨ops.length, by omega, by omega, List.getElem?_concat_length ..⟩
  · refine ((h.reopened pane hbefore).concat_of_ne hne).mono (Nat.le_refl _) ?_
    simp

theorem Addressed.kept_perform
    (hearly : (ledger.registry.perform token (.stamp ops.length) op).early.find? pane =
      some letter) :
    letter.Sent token (ops ++ [op]) pane ∧
      Reopened (ops ++ [op]) pane (ops ++ [op]).length letter.number := by
  rcases hsound.early_perform hearly with ⟨hold, hconcerns⟩ | ⟨signal, hsignal, rfl, hopen, -⟩
  · obtain ⟨hsent, hreopened⟩ := h.kept pane letter hold
    exact ⟨hsent.concat, hreopened.concat_of_ne fun hop => hconcerns (.inr (.inl hop))⟩
  · refine ⟨Letter.sent_concat hsignal, (h.reopened pane hopen).concat_of_ne ?_⟩
    rintro rfl
    cases hsignal

theorem Addressed.held_perform
    (hhas : (ledger.perform token (.stamp ops.length) op).Has id letter) :
    ∃ pane opened, Opens (ops ++ [op]) opened pane id ∧ letter.Sent token (ops ++ [op]) pane ∧
      Reopened (ops ++ [op]) pane opened letter.number := by
  rcases Ledger.has_perform hhas with hold | ⟨pane, _, rfl, rfl, hearly⟩ | ⟨report, hop, hwaiter⟩
  · obtain ⟨pane, opened, hopens, hsent, hreopened⟩ := h.held id letter hold
    exact ⟨pane, opened, hopens.concat, hsent.concat, hreopened.concat (Nat.le_of_lt hopens.lt)⟩
  · obtain ⟨hsent, hreopened⟩ := h.kept pane letter hearly
    refine ⟨pane, ops.length, ?_, hsent.concat, hreopened.concat (Nat.le_refl _)⟩
    rw [hsound.length]
    exact opens_concat
  · obtain ⟨opened, hopens⟩ := exists_opens (hsound.waiter report.pane id hwaiter)
    refine ⟨report.pane, opened, hopens.concat, Letter.sent_concat ?_, ?_⟩
    · rw [Operation.signalOf?_of_signed hop, if_pos rfl]
    · exact reopened_of_opens hopens.concat hopens.lt

/-- What is kept does not get into a channel. -/
theorem Addressed.apart_perform {more : Letter}
    (hearly : (ledger.registry.perform token (.stamp ops.length) op).early.find? pane = some letter)
    (hhas : (ledger.perform token (.stamp ops.length) op).Has id more) :
    letter.number ≠ more.number := by
  intro hnumber
  rcases hsound.early_perform hearly with ⟨hold, hconcerns⟩ | ⟨signal, hsignal, rfl, -, hnobody⟩
  · -- It was kept before, so it came with an earlier operation, and from its own pane.
    have hsent := (h.kept pane letter hold).1
    rcases Ledger.has_perform hhas with hheld | ⟨other, _, rfl, -, hother⟩ | ⟨report, -, -⟩
    · exact h.apart pane id letter more hold hheld hnumber
    · obtain rfl : pane = other := hsent.pane_eq (h.kept other more hother).1 hnumber
      exact hconcerns (.inl rfl)
    · exact absurd hnumber (Nat.ne_of_lt hsent.lt)
  · -- It has just come while nobody waits for its pane, so no channel gets it.
    rcases Ledger.has_perform hhas with hheld | ⟨other, _, rfl, -, -⟩ | ⟨report, hop, hwaiter⟩
    · exact absurd hnumber (Nat.ne_of_gt (h.number_lt hheld))
    · cases hsignal
    · obtain rfl := Option.some.inj (hop.symm.trans (Operation.signalOf?_eq_some.1 hsignal))
      rw [hnobody] at hwaiter
      cases hwaiter

theorem Addressed.perform :
    Addressed token (ops ++ [op]) (ledger.perform token (.stamp ops.length) op) where
  reopened _ := h.reopened_perform hsound
  kept _ _ := h.kept_perform hsound
  held _ _ := h.held_perform hsound
  apart _ _ _ _ := h.apart_perform hsound
  alone _ _ _ _ := h.alone_perform

end Step

end

theorem addressed (token : String) (ops : List Operation) :
    Addressed token ops (.ofLetters token ops) := by
  induction ops using List.reverseRecOn with
  | nil => exact addressed_nil
  | append_singleton ops op ih =>
    rw [Ledger.ofLetters_concat]
    exact ih.perform (Ledger.sound token _ ops)

/-! ## The result -/

/-- How a listener deals with operations. -/
structure Listener.Dispatches (l : Listener) (ops : List Operation) : Prop where
  /-- At no time is a pane in two of the maps. -/
  separate : ∀ n, (l.after (ops.take n)).registry.Separate
  /-- The ledger of letters is that of the listener, but for the numbers. -/
  faithful : (Ledger.ofLetters l.token ops).map Letter.signal =
    ⟨(l.after ops).registry, l.given ops⟩
  /-- No receiver yields two signals. -/
  once : ∀ id, (l.yields ops id).length ≤ 1
  /-- No callback is yielded twice. -/
  alone : ((Ledger.ofLetters l.token ops).given.map (·.2.number)).Nodup
  /-- What is yielded is yielded by a receiver of a pane. -/
  received : ∀ id letter, (id, letter) ∈ (Ledger.ofLetters l.token ops).given →
    ∃ (pane : String) (opened : Nat), ops[opened]? = some (.register pane) ∧
      (l.answers ops)[opened]? = some (.registered id)
  /-- A receiver yields what a callback with the right token reported of its pane, and if the pane
  was done with before, then it was waited for again before that callback. -/
  own : ∀ (pane : String) (opened id : Nat) letter, ops[opened]? = some (.register pane) →
    (l.answers ops)[opened]? = some (.registered id) →
    (id, letter) ∈ (Ledger.ofLetters l.token ops).given →
    letter.Sent l.token ops pane ∧ Reopened ops pane opened letter.number

namespace Listener

variable (port : Nat) (token : String) (reachable : Bool) (ops : List Operation)

theorem answers_registered {opened id : Nat} {pane : String}
    (hop : ops[opened]? = some (.register pane)) :
    ((start port token reachable).answers ops)[opened]? = some (.registered id) ↔
      Opens ops opened pane id := by
  rw [getElem?_answers, hop, Option.map_some, Option.some_inj, registered_start]
  constructor
  · intro h
    exact ⟨hop, h⟩
  · intro h
    exact h.2

/-- Whatever is done with a listener, a signal goes to one receiver at most, and to one of its pane;
and no signal reaches a receiver if the pane was done with after it came. -/
theorem dispatches : (start port token reachable).Dispatches ops := by
  have hfaithful : (Ledger.ofLetters token ops).map Letter.signal =
      ⟨((start port token reachable).after ops).registry,
        (start port token reachable).given ops⟩ := by
    rw [registry_start, (ledger_start port token reachable ops).2]
    exact Ledger.map_ofOps ..
  have hletters := Ledger.single token Letter.stamp ops
  have haddressed := addressed token ops
  refine ⟨?separate, hfaithful, ?once, ?alone, ?received, ?own⟩
  case separate =>
    intro n
    rw [registry_start]
    exact Registry.separate_of_stands (Ledger.sound_ofSignals token (ops.take n)).stands
  case once =>
    intro id
    have hnodup := (Ledger.single token (fun _ signal => signal) ops).once
    unfold yields
    rw [(ledger_start port token reachable ops).2, List.length_map, ← List.countP_eq_length_filter]
    have hcount := List.nodup_iff_count.1 hnodup id
    rwa [List.count, List.countP_map] at hcount
  case alone =>
    refine List.pairwise_map.2 ((List.pairwise_map.1 hletters.once).imp_of_mem ?_)
    intro entry entry' hmem hmem' hne hnumber
    exact hne (haddressed.alone _ _ _ _ (.inr hmem) (.inr hmem') hnumber)
  case received =>
    intro id letter hmem
    obtain ⟨pane, opened, hopens, -, -⟩ := haddressed.held id letter (.inr hmem)
    exact ⟨pane, opened, hopens.1, (answers_registered port token reachable ops hopens.1).2 hopens⟩
  case own =>
    intro pane opened id letter hop hanswer hmem
    have hopens := (answers_registered port token reachable ops hop).1 hanswer
    obtain ⟨pane', opened', hopens', hsent, hreopened⟩ := haddressed.held id letter (.inr hmem)
    obtain ⟨rfl, rfl⟩ := hopens.unique hopens'
    exact ⟨hsent, hreopened⟩

/-- A pane that is done with, waited for again, and then reports twice: the second report is kept
for whoever waits for the pane next. -/
def reportingTwice : List Operation :=
  [.unregister "%1", .register "%1", .request (.hook "/complete" "%251" "secret"),
    .request (.hook "/exited" "%251" "secret"), .register "%1", .poll 1]

/-- A receiver that waits for a pane that was done with before may yield a signal that came before
it began to wait. -/
theorem dispatches_earlier :
    ¬ ∀ (ops : List Operation) (pane : String) (gone opened id : Nat) (letter : Letter),
      gone < opened → ops[gone]? = some (.unregister pane) → ops[opened]? = some (.register pane) →
      ((start 4000 "secret" true).answers ops)[opened]? = some (.registered id) →
      (id, letter) ∈ (Ledger.ofLetters "secret" ops).given → opened < letter.number := by
  intro h
  have hopens : Opens reportingTwice 4 "%1" 1 := ⟨rfl, rfl⟩
  have hanswer := (answers_registered 4000 "secret" true reportingTwice hopens.1).2 hopens
  have hgiven : (1, ⟨.exited, 3⟩) ∈ (Ledger.ofLetters "secret" reportingTwice).given := by
    decide +kernel
  have hlt := h reportingTwice "%1" 0 4 1 ⟨.exited, 3⟩ (by decide) rfl hopens.1 hanswer hgiven
  exact absurd hlt (by decide)

end Listener

end Runbook.Callback
