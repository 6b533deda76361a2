/-!
# Parts of runs and compilations

A run and a compilation are built from parts that end with a result or fail, and change a state on
the way whatever their end is.  This file has what both need to be reasoned about.

* `Portion.Ends` says what holds of the end of a part and of the state that it leaves;
* `Portion.Steady` says that a part leaves a view of the state alone and fails in certain ways only;
* `Portion.Keeps` says that a part keeps an invariant of the state and fails in certain ways only;
* `Portion.Settles` says what the results and the failures of a part are, `Portion.Decides` that it
  fails only if something does not hold;
* `Portion.Indifferent` says that the end of a part does not depend on the state it begins in;
* `Ends.bind`, `Steady.bind`, `Keeps.bind`, `Settles.bind` and `Indifferent.bind` are how parts that
  follow each other are put together.
-/

namespace Runbook

/-- What ends with a result or fails, and changes a state. -/
abbrev Portion (ε σ α : Type) := ExceptT ε (StateM σ) α

namespace Portion

variable {ε σ α β γ δ : Type}

/-- A part that follows another gets its result and the state that it left. -/
theorem bind_apply (m : Portion ε σ α) (f : α → Portion ε σ β) (s : σ) :
    (m >>= f) s = match m s with
      | (.ok a, t) => f a t
      | (.error e, t) => (.error e, t) := by
  show ExceptT.bindCont f (m s).1 (m s).2 = _
  rcases m s with ⟨_ | a, t⟩
  · rfl
  · rfl

theorem bind_ok {m : Portion ε σ α} {f : α → Portion ε σ β} {s t : σ} {a : α}
    (h : m s = (.ok a, t)) :
    (m >>= f) s = f a t := by
  rw [bind_apply, h]

theorem bind_error {m : Portion ε σ α} {f : α → Portion ε σ β} {s t : σ} {e : ε}
    (h : m s = (.error e, t)) : (m >>= f) s = (.error e, t) := by
  rw [bind_apply, h]

/-! ## What holds in the end -/

/-- `Q` holds of the end of a part that begins in `s`, and of the state it leaves. -/
def Ends (m : Portion ε σ α) (s : σ) (Q : Except ε α → σ → Prop) : Prop := Q (m s).1 (m s).2

theorem Ends.mono {m : Portion ε σ α} {s : σ} {P Q : Except ε α → σ → Prop} (h : Ends m s P)
    (hPQ : ∀ r t, P r t → Q r t) : Ends m s Q :=
  hPQ _ _ h

theorem Ends.and {m : Portion ε σ α} {s : σ} {P Q : Except ε α → σ → Prop} (hP : Ends m s P)
    (hQ : Ends m s Q) : Ends m s (fun r t => P r t ∧ Q r t) :=
  ⟨hP, hQ⟩

/-- What follows a part that comes to its end begins where that part ended. -/
theorem Ends.bind {m : Portion ε σ α} {f : α → Portion ε σ β} {s : σ} {P : Except ε α → σ → Prop}
    {Q : Except ε β → σ → Prop} (h : Ends m s P)
    (ok : ∀ a t, P (.ok a) t → Ends (f a) t Q) (error : ∀ e t, P (.error e) t → Q (.error e) t) :
    Ends (m >>= f) s Q := by
  rcases hm : m s with ⟨r, t⟩
  have hP : P r t := by
    have := h
    rwa [Ends, hm] at this
  cases r with
  | ok a =>
    have := ok a t hP
    rwa [Ends, bind_ok hm]
  | error e =>
    rw [Ends, bind_error hm]
    exact error e t hP

/-- What follows a part of which the end is known. -/
theorem Ends.bind_ok {m : Portion ε σ α} {f : α → Portion ε σ β} {s t : σ} {a : α}
    {Q : Except ε β → σ → Prop} (hm : m s = (.ok a, t)) (h : Ends (f a) t Q) :
    Ends (m >>= f) s Q := by
  rwa [Ends, Portion.bind_ok hm]

theorem Ends.ite {c : Prop} [Decidable c] {m n : Portion ε σ α} {s : σ}
    {Q : Except ε α → σ → Prop} (hm : c → Ends m s Q) (hn : ¬ c → Ends n s Q) :
    Ends (if c then m else n) s Q := by
  by_cases h : c
  · rw [if_pos h]
    exact hm h
  · rw [if_neg h]
    exact hn h

/-! ## What a part leaves alone -/

/-- A part that leaves a view `v` of the state alone, and fails only in ways that `P` allows. -/
def Steady (v : σ → γ) (P : ε → Prop) (m : Portion ε σ α) : Prop :=
  ∀ s, Ends m s (fun r t => v t = v s ∧ ∀ e, r = .error e → P e)

variable {v : σ → γ} {P : ε → Prop}

theorem Steady.view {m : Portion ε σ α} (h : Steady v P m) (s : σ) : v (m s).2 = v s := (h s).1

theorem Steady.failure {m : Portion ε σ α} (h : Steady v P m) {s : σ} {e : ε}
    (he : (m s).1 = .error e) : P e :=
  (h s).2 e he

/-- What is seen through a view is seen through all that it is computed into. -/
theorem Steady.comp {m : Portion ε σ α} (h : Steady v P m) (w : γ → δ) :
    Steady (fun s => w (v s)) P m :=
  fun s => ⟨congrArg w (h.view s), fun _ he => h.failure he⟩

theorem Steady.weaken {m : Portion ε σ α} (h : Steady v P m) {Q : ε → Prop} (hPQ : ∀ e, P e → Q e) :
    Steady v Q m :=
  fun s => ⟨h.view s, fun _ he => hPQ _ (h.failure he)⟩

theorem steady_pure (a : α) : Steady v P (pure a : Portion ε σ α) :=
  fun _ => ⟨rfl, fun _ he => by cases he⟩

theorem steady_throw {e : ε} (he : P e) : Steady v P (throw e : Portion ε σ α) :=
  fun _ => ⟨rfl, fun _ h => by cases h; exact he⟩

theorem steady_get : Steady v P (get : Portion ε σ σ) := fun _ => ⟨rfl, fun _ he => by cases he⟩

theorem steady_modify {f : σ → σ} (h : ∀ s, v (f s) = v s) :
    Steady v P (modify f : Portion ε σ Unit) :=
  fun s => ⟨h s, fun _ he => by cases he⟩

theorem Steady.bind {m : Portion ε σ α} {f : α → Portion ε σ β} (hm : Steady v P m)
    (hf : ∀ a, Steady v P (f a)) : Steady v P (m >>= f) := by
  intro s
  refine Ends.bind (hm s) ?_ ?_
  · rintro a t ⟨hv, -⟩
    exact ⟨((hf a).view t).trans hv, fun e he => (hf a).failure he⟩
  · rintro e t ⟨hv, he⟩
    exact ⟨hv, fun e' h => by cases h; exact he e rfl⟩

/-- A part that puts a changed state in place, and goes on by what the state was before. -/
theorem steady_get_set {f : σ → σ} {k : σ → Portion ε σ α} (hf : ∀ s, v (f s) = v s)
    (hk : ∀ s, Steady v P (k s)) :
    Steady v P (get >>= fun s => set (f s) >>= fun _ => k s : Portion ε σ α) := by
  intro s
  have h := hk s (f s)
  exact ⟨h.1.trans (hf s), h.2⟩

theorem Steady.ite {c : Prop} [Decidable c] {m n : Portion ε σ α} (hm : Steady v P m)
    (hn : Steady v P n) : Steady v P (if c then m else n) := by
  split
  · exact hm
  · exact hn

/-! ## What a part keeps -/

/-- A part that keeps `I` true of the state, and fails only in ways that `P` allows. -/
def Keeps (I : σ → Prop) (P : ε → Prop) (m : Portion ε σ α) : Prop :=
  ∀ s, I s → Ends m s (fun r t => I t ∧ ∀ e, r = .error e → P e)

variable {I : σ → Prop}

/-- What is seen through a view that is left alone stays true. -/
theorem Steady.keeps {m : Portion ε σ α} (h : Steady v P m) (hI : ∀ s t, v t = v s → I s → I t) :
    Keeps I P m :=
  fun s hs => ⟨hI s _ (h.view s) hs, fun _ he => h.failure he⟩

theorem keeps_pure (a : α) : Keeps I P (pure a : Portion ε σ α) :=
  fun _ hs => ⟨hs, fun _ he => by cases he⟩

theorem keeps_throw {e : ε} (he : P e) : Keeps I P (throw e : Portion ε σ α) :=
  fun _ hs => ⟨hs, fun _ h => by cases h; exact he⟩

theorem Keeps.bind {m : Portion ε σ α} {f : α → Portion ε σ β} (hm : Keeps I P m)
    (hf : ∀ a, Keeps I P (f a)) : Keeps I P (m >>= f) := by
  intro s hs
  refine Ends.bind (hm s hs) ?_ ?_
  · rintro a t ⟨ht, -⟩
    exact hf a t ht
  · rintro e t ⟨ht, he⟩
    exact ⟨ht, fun e' h => by cases h; exact he e rfl⟩

/-- What follows a part that keeps `I` begins with `I`. -/
theorem Keeps.bind_ends {m : Portion ε σ α} {f : α → Portion ε σ β} (hm : Keeps I P m) {s : σ}
    (hs : I s) {Q : Except ε β → σ → Prop} (ok : ∀ a t, I t → Ends (f a) t Q)
    (error : ∀ e t, I t → P e → Q (.error e) t) : Ends (m >>= f) s Q :=
  Ends.bind (hm s hs) (fun a t ⟨ht, _⟩ => ok a t ht) fun e t ⟨ht, he⟩ => error e t ht (he e rfl)

/-! ## What a part settles -/

/-- A part that keeps `I`, has results with `R` only, and fails only in ways that `P` allows. -/
def Settles (I : σ → Prop) (R : α → Prop) (P : ε → Prop) (m : Portion ε σ α) : Prop :=
  ∀ s, I s → Ends m s (fun r t => I t ∧
    match r with
    | .ok a => R a
    | .error e => P e)

variable {R : α → Prop}

theorem settles_pure {a : α} (h : R a) : Settles I R P (pure a : Portion ε σ α) :=
  fun _ hs => ⟨hs, h⟩

theorem settles_throw {e : ε} (h : P e) : Settles I R P (throw e : Portion ε σ α) :=
  fun _ hs => ⟨hs, h⟩

theorem settles_modify {f : σ → σ} (h : ∀ s, I s → I (f s)) :
    Settles I (fun _ => True) P (modify f : Portion ε σ Unit) :=
  fun s hs => ⟨h s hs, trivial⟩

/-- A check that does not touch the state. -/
theorem settles_lift {r : Except ε α} (ok : ∀ a, r = .ok a → R a)
    (error : ∀ e, r = .error e → P e) :
    Settles I R P (liftM r : Portion ε σ α) := by
  intro s hs
  cases r with
  | ok a => exact ⟨hs, ok a rfl⟩
  | error e => exact ⟨hs, error e rfl⟩

theorem Settles.weaken {m : Portion ε σ α} {R' : α → Prop} {P' : ε → Prop} (h : Settles I R P m)
    (hR : ∀ a, R a → R' a) (hP : ∀ e, P e → P' e) : Settles I R' P' m := by
  intro s hs
  refine Ends.mono (h s hs) fun r t ⟨ht, hr⟩ => ⟨ht, ?_⟩
  cases r with
  | ok a => exact hR a hr
  | error e => exact hP e hr

theorem Settles.bind {m : Portion ε σ α} {f : α → Portion ε σ β} {R' : β → Prop}
    (hm : Settles I R P m) (hf : ∀ a, R a → Settles I R' P (f a)) : Settles I R' P (m >>= f) := by
  intro s hs
  refine Ends.bind (hm s hs) ?_ ?_
  · rintro a t ⟨ht, ha⟩
    exact hf a ha t ht
  · rintro e t ⟨ht, he⟩
    exact ⟨ht, he⟩

theorem Settles.map {m : Portion ε σ α} {f : α → β} {R' : β → Prop} (hm : Settles I R P m)
    (hf : ∀ a, R a → R' (f a)) : Settles I R' P (f <$> m) := by
  rw [map_eq_pure_bind]
  exact hm.bind fun a ha => settles_pure (hf a ha)

theorem Settles.and {m : Portion ε σ α} {R' : α → Prop} {P' : ε → Prop} (h : Settles I R P m)
    (h' : Settles I R' P' m) : Settles I (fun a => R a ∧ R' a) (fun e => P e ∧ P' e) m := by
  intro s hs
  refine ((h s hs).and (h' s hs)).mono fun r t ⟨⟨ht, hr⟩, _, hr'⟩ => ⟨ht, ?_⟩
  cases r with
  | ok a => exact ⟨hr, hr'⟩
  | error e => exact ⟨hr, hr'⟩

/-! ## What a part decides -/

/-- A part that keeps `I`, has results with `R` only, and fails only if `F` does not hold. -/
def Decides (I : σ → Prop) (R : α → Prop) (F : Prop) (m : Portion ε σ α) : Prop :=
  ∀ s, I s → Ends m s (fun r t => I t ∧
    match r with
    | .ok a => R a
    | .error _ => ¬ F)

variable {F G : Prop}

theorem decides_pure {a : α} (h : R a) : Decides I R F (pure a : Portion ε σ α) :=
  settles_pure h

theorem decides_throw {e : ε} (h : ¬ F) : Decides I R F (throw e : Portion ε σ α) :=
  fun _ hs => ⟨hs, h⟩

theorem decides_modify {f : σ → σ} (h : ∀ s, I s → I (f s)) :
    Decides I (fun _ => True) F (modify f : Portion ε σ Unit) :=
  settles_modify h

theorem decides_lift {r : Except ε α} (ok : ∀ a, r = .ok a → R a)
    (error : ∀ e, r = .error e → ¬ F) :
    Decides I R F (liftM r : Portion ε σ α) :=
  settles_lift ok error

theorem decides_any (r : Except ε α) :
    Decides I (fun _ => True) False (liftM r : Portion ε σ α) :=
  decides_lift (fun _ _ => trivial) fun _ _ => id

theorem decides_check {r : Except ε Unit} {H : Prop} (h : r = .ok () ↔ H) (hF : F → H) :
    Decides I (fun _ => H) F (liftM r : Portion ε σ Unit) := by
  refine decides_lift (fun _ hr => h.1 hr) fun e hr hf => ?_
  rw [h.2 (hF hf)] at hr
  cases hr

theorem Decides.weaken {m : Portion ε σ α} {R' : α → Prop} (h : Decides I R F m)
    (hR : ∀ a, R a → R' a) (hG : G → F) : Decides I R' G m :=
  Settles.weaken h hR fun _ hF hg => hF (hG hg)

theorem Decides.bind {m : Portion ε σ α} {f : α → Portion ε σ β} {R' : β → Prop}
    (hm : Decides I R F m) (hf : ∀ a, R a → Decides I R' F (f a)) : Decides I R' F (m >>= f) :=
  Settles.bind hm hf

theorem Decides.map {m : Portion ε σ α} {f : α → β} {R' : β → Prop} (hm : Decides I R F m)
    (hf : ∀ a, R a → R' (f a)) : Decides I R' F (f <$> m) :=
  Settles.map hm hf

/-! ## What does not depend on the state -/

/-- Two ends with the same result, or with failures that `E` takes for the same. -/
def Alike (E : ε → ε → Prop) : Except ε α → Except ε α → Prop
  | .ok a, .ok b => a = b
  | .error e, .error f => E e f
  | .ok _, .error _ | .error _, .ok _ => False

/-- A part that keeps `I`, and ends alike wherever it begins with `I`. -/
def Indifferent (I : σ → Prop) (E : ε → ε → Prop) (m : Portion ε σ α) : Prop :=
  ∀ s s', I s → I s' → I (m s).2 ∧ I (m s').2 ∧ Alike E (m s).1 (m s').1

variable {E : ε → ε → Prop}

theorem indifferent_pure (a : α) : Indifferent I E (pure a : Portion ε σ α) :=
  fun _ _ hs hs' => ⟨hs, hs', rfl⟩

theorem indifferent_throw {e : ε} (h : E e e) : Indifferent I E (throw e : Portion ε σ α) :=
  fun _ _ hs hs' => ⟨hs, hs', h⟩

theorem indifferent_lift (hE : ∀ e, E e e) (r : Except ε α) :
    Indifferent I E (liftM r : Portion ε σ α) := by
  cases r with
  | ok a => exact indifferent_pure a
  | error e => exact indifferent_throw (hE e)

theorem indifferent_modify {f : σ → σ} (h : ∀ s, I s → I (f s)) :
    Indifferent I E (modify f : Portion ε σ Unit) :=
  fun s s' hs hs' => ⟨h s hs, h s' hs', rfl⟩

/-- What follows a part need only be indifferent after the results that the part can have. -/
theorem Indifferent.bind_settled {m : Portion ε σ α} {f : α → Portion ε σ β}
    (hm : Indifferent I E m) (hR : Settles I R P m) (hf : ∀ a, R a → Indifferent I E (f a)) :
    Indifferent I E (m >>= f) := by
  intro s s' hs hs'
  obtain ⟨ht, ht', ha⟩ := hm s s' hs hs'
  have hr := (hR s hs).2
  rcases h : m s with ⟨e | a, t⟩ <;> rcases h' : m s' with ⟨e' | a', t'⟩ <;>
    rw [h] at ht ha hr <;> rw [h'] at ht' ha
  · rw [bind_error h, bind_error h']
    exact ⟨ht, ht', ha⟩
  · exact ha.elim
  · exact ha.elim
  · obtain rfl : a = a' := ha
    rw [bind_ok h, bind_ok h']
    exact hf a hr t t' ht ht'

theorem Indifferent.bind {m : Portion ε σ α} {f : α → Portion ε σ β} (hm : Indifferent I E m)
    (hf : ∀ a, Indifferent I E (f a)) : Indifferent I E (m >>= f) := by
  have hR : Settles I (fun _ => True) (fun _ => True) m := by
    intro s hs
    refine ⟨(hm s s hs hs).1, ?_⟩
    cases (m s).1 <;> trivial
  exact hm.bind_settled hR fun a _ => hf a

theorem Indifferent.map {m : Portion ε σ α} {f : α → β} (hm : Indifferent I E m) :
    Indifferent I E (f <$> m) := by
  rw [map_eq_pure_bind]
  exact hm.bind fun a => indifferent_pure (f a)

/-- A part whose only result is known, and that has it exactly if `F` holds, ends alike if its
failures are alike. -/
theorem Settles.indifferent {m : Portion ε σ α} {a : α} (h : Settles I (· = a ∧ F) (P · ∧ ¬ F) m)
    (hE : ∀ e e', P e → P e' → E e e') : Indifferent I E m := by
  intro s s' hs hs'
  obtain ⟨ht, hr⟩ := h s hs
  obtain ⟨ht', hr'⟩ := h s' hs'
  refine ⟨ht, ht', ?_⟩
  generalize (m s).1 = r at hr
  generalize (m s').1 = r' at hr'
  rcases r with e | b <;> rcases r' with e' | b'
  · exact hE e e' hr.1 hr'.1
  · exact hr.2 hr'.2
  · exact hr'.2 hr.2
  · exact hr.1.trans hr'.1.symm

end Portion

end Runbook
