import Runbook.Proofs.Workflow.WellFormed

/-!
# Compiled shared steps

What a shared step is compiled to, and what its height says about the shared steps that it calls.

* `Compiler.CalleeFollows` says that a compiled shared step is that of a reference, and
  `Compiler.CallFollows` that an action is a call of it;
* `CalleeFollows.length_lt` and `CalleeFollows.exists_chain` say that the height of a compiled
  shared step is the length of the longest chain of calls that begins with it;
* `wellFormed_of_follows` says that only well-formed bundles have compiled steps that follow them.
-/

namespace Runbook.Compiler

variable {c : Compiler}

/-- What the shared step of a reference is compiled to, if no more than `n` calls lie in each
other. -/
def CalleeFollows (c : Compiler) : (n : Nat) → Reference → CompiledShared Action → Prop
  | 0, _, _ => False
  | n + 1, r, callee => ∃ d body, c.library.load r = .ok d ∧ BlockValid c.adapters false d.steps ∧
      stepsFollow (fun step call action => ∃ r' callee',
        c.library.resolve call.uses (c.bundle r d).origin = .ok r' ∧ c.CalleeFollows n r' callee' ∧
          callee'.signature.checkCall step call = .ok () ∧
            action = .shared callee' call.inputs call.outputs) d.steps body ∧
      callee = ⟨r.key, ⟨d.name, d.inputs, d.outputs⟩, body, Block.sharedHeight body + 1⟩

/-- What a call in a directory is compiled to, if no more than `n` calls lie in each other. -/
def CallFollows (c : Compiler) (n : Nat) (origin : String) : CallRelation :=
  fun step call action => ∃ r callee,
    c.library.resolve call.uses origin = .ok r ∧ c.CalleeFollows n r callee ∧
      callee.signature.checkCall step call = .ok () ∧
        action = .shared callee call.inputs call.outputs

theorem calleeFollows_succ {n : Nat} {r : Reference} {callee : CompiledShared Action} :
    c.CalleeFollows (n + 1) r callee ↔
      ∃ d body, c.library.load r = .ok d ∧ BlockValid c.adapters false d.steps ∧
        stepsFollow (c.CallFollows n (c.bundle r d).origin) d.steps body ∧
        callee = ⟨r.key, ⟨d.name, d.inputs, d.outputs⟩, body, Block.sharedHeight body + 1⟩ :=
  Iff.rfl

theorem CallFollows.mono_of {m n : Nat} {origin : String}
    (h : ∀ r callee, c.CalleeFollows m r callee → c.CalleeFollows n r callee) {step : String}
    {call : SharedCall} {action : Action} (hf : c.CallFollows m origin step call action) :
    c.CallFollows n origin step call action := by
  obtain ⟨r, callee, hr, hcallee, hcheck, haction⟩ := hf
  exact ⟨r, callee, hr, h r callee hcallee, hcheck, haction⟩

theorem CalleeFollows.mono {m : Nat} :
    ∀ {n : Nat} {r : Reference} {callee : CompiledShared Action}, m ≤ n →
      c.CalleeFollows m r callee → c.CalleeFollows n r callee := by
  induction m with
  | zero => intro n r callee _ h; exact h.elim
  | succ m ih =>
    intro n r callee hmn h
    obtain ⟨n, rfl⟩ : ∃ k, n = k + 1 := ⟨n - 1, by omega⟩
    obtain ⟨d, body, hload, hvalid, hbody, rfl⟩ := calleeFollows_succ.1 h
    refine calleeFollows_succ.2 ⟨d, body, hload, hvalid, ?_, rfl⟩
    exact stepsFollow_mono (fun hf _ => hf.mono_of fun r callee => ih (by omega)) d.steps le_rfl
      hbody

theorem CallFollows.mono {m n : Nat} (hmn : m ≤ n) {origin step : String} {call : SharedCall}
    {action : Action} (h : c.CallFollows m origin step call action) :
    c.CallFollows n origin step call action :=
  h.mono_of fun _ _ => CalleeFollows.mono hmn

theorem CalleeFollows.signature {n : Nat} {r : Reference} {callee : CompiledShared Action}
    (h : c.CalleeFollows n r callee) {d : SharedDefinition} (hd : c.library.load r = .ok d) :
    callee.signature = ⟨d.name, d.inputs, d.outputs⟩ := by
  cases n with
  | zero => exact h.elim
  | succ n =>
    obtain ⟨d', body, hload, -, -, rfl⟩ := calleeFollows_succ.1 h
    rw [hload] at hd
    cases hd
    rfl

/-! ## Heights and chains -/

/-- A shared step that is called is lower. -/
theorem CalleeFollows.of_calls {n : Nat} {r r' : Reference} {callee : CompiledShared Action}
    (h : c.CalleeFollows n r callee) (hc : c.Calls r r') :
    ∃ n' callee', c.CalleeFollows n' r' callee' ∧ callee'.height < callee.height := by
  cases n with
  | zero => exact h.elim
  | succ n =>
    obtain ⟨d, body, hload, -, hbody, rfl⟩ := calleeFollows_succ.1 h
    obtain ⟨d', hload', p, hp, hresolve⟩ := hc
    rw [hload] at hload'
    cases hload'
    obtain ⟨action, ⟨r'', callee', hr'', hcallee', -, rfl⟩, hheight⟩ :=
      (stepsFollow_called d.steps hbody).bounded p hp
    rw [hr''] at hresolve
    cases hresolve
    exact ⟨n, callee', hcallee', Nat.lt_succ_of_le hheight⟩

theorem CalleeFollows.of_transGen {n : Nat} {r r' : Reference} {callee : CompiledShared Action}
    (h : c.CalleeFollows n r callee) (hc : Relation.TransGen c.Calls r r') :
    ∃ n' callee', c.CalleeFollows n' r' callee' ∧ callee'.height < callee.height := by
  induction hc with
  | single hcalls => exact h.of_calls hcalls
  | tail _ hcalls ih =>
    obtain ⟨_, callee', h', hlt⟩ := ih
    obtain ⟨n'', callee'', h'', hlt'⟩ := h'.of_calls hcalls
    exact ⟨n'', callee'', h'', hlt'.trans hlt⟩

/-- A shared step that is compiled does not lead back to itself. -/
theorem not_transGen_self {r : Reference} (height : Nat) :
    ∀ {n : Nat} {callee : CompiledShared Action}, c.CalleeFollows n r callee →
      callee.height ≤ height → ¬ Relation.TransGen c.Calls r r := by
  -- going round once makes the height smaller
  induction height with
  | zero =>
    intro n callee h hle hc
    obtain ⟨_, callee', -, hlt⟩ := h.of_transGen hc
    omega
  | succ height ih =>
    intro n callee h hle hc
    obtain ⟨_, callee', h', hlt⟩ := h.of_transGen hc
    exact ih h' (by omega) hc

/-- A chain of calls is no longer than the shared step is high. -/
theorem CalleeFollows.length_lt {rs : List Reference} :
    ∀ {n : Nat} {r : Reference} {callee : CompiledShared Action}, c.CalleeFollows n r callee →
      (r :: rs).IsChain c.Calls → rs.length < callee.height := by
  induction rs with
  | nil =>
    intro n r callee h _
    cases n with
    | zero => exact h.elim
    | succ n =>
      obtain ⟨d, body, -, -, -, rfl⟩ := calleeFollows_succ.1 h
      exact Nat.succ_pos _
  | cons r' rest ih =>
    intro n r callee h hchain
    obtain ⟨hcalls, hrest⟩ := List.isChain_cons_cons.1 hchain
    obtain ⟨n', callee', h', hlt⟩ := h.of_calls hcalls
    have := ih h' hrest
    rw [List.length_cons]
    omega

/-- A chain of calls is as long as the shared step is high. -/
theorem CalleeFollows.exists_chain {n : Nat} :
    ∀ {r : Reference} {callee : CompiledShared Action}, c.CalleeFollows n r callee →
      ∃ rs, (r :: rs).IsChain c.Calls ∧ rs.length + 1 = callee.height := by
  induction n with
  | zero => intro r callee h; exact h.elim
  | succ n ih =>
    intro r callee h
    obtain ⟨d, body, hload, -, hbody, rfl⟩ := calleeFollows_succ.1 h
    rcases Nat.eq_zero_or_pos (Block.sharedHeight body) with hzero | hpos
    · exact ⟨[], .singleton r, by rw [hzero]; rfl⟩
    · obtain ⟨p, hp, action, ⟨r', callee', hr', hcallee', -, rfl⟩, hheight⟩ :=
        (stepsFollow_called d.steps hbody).attained hpos
      obtain ⟨rs, hchain, hlength⟩ := ih hcallee'
      have hheight : callee'.height = Block.sharedHeight body := hheight
      exact ⟨r' :: rs, .cons_cons ⟨d, hload, p, hp, hr'⟩ hchain, by simp [hlength, hheight]⟩

/-! ## Well-formed bundles -/

/-- The shared steps that a bundle calls are lower than what the bundle is compiled to. -/
theorem calleeFollows_of_leads {n : Nat} {b : Bundle} {block : Block} {r : Reference}
    (h : stepsFollow (c.CallFollows n b.origin) b.steps block) (hl : c.Leads b r) :
    ∃ callee, c.CalleeFollows n r callee ∧ callee.height ≤ Block.sharedHeight block := by
  obtain ⟨p, hp, hr⟩ := hl
  obtain ⟨action, ⟨r', callee, hr', hcallee, -, rfl⟩, hheight⟩ :=
    (stepsFollow_called b.steps h).bounded p hp
  rw [hr'] at hr
  cases hr
  exact ⟨callee, hcallee, hheight⟩

theorem calleeFollows_of_reaches {n : Nat} {b : Bundle} {block : Block} {r : Reference}
    (h : stepsFollow (c.CallFollows n b.origin) b.steps block) (hr : c.Reaches b r) :
    ∃ n' callee, c.CalleeFollows n' r callee := by
  obtain ⟨first, hfirst, hr⟩ := hr
  induction hr with
  | refl =>
    obtain ⟨callee, hcallee, -⟩ := calleeFollows_of_leads h hfirst
    exact ⟨n, callee, hcallee⟩
  | tail _ hcalls ih =>
    obtain ⟨_, callee, hcallee⟩ := ih
    obtain ⟨n', callee', hcallee', -⟩ := hcallee.of_calls hcalls
    exact ⟨n', callee', hcallee'⟩

theorem CalleeFollows.load {n : Nat} {r : Reference} {callee : CompiledShared Action}
    (h : c.CalleeFollows n r callee) : ∃ d, c.library.load r = .ok d := by
  cases n with
  | zero => exact h.elim
  | succ n =>
    obtain ⟨d, -, hload, -⟩ := calleeFollows_succ.1 h
    exact ⟨d, hload⟩

theorem bundleValid_of_follows {n : Nat} {b : Bundle} {block : Block}
    (hv : BlockValid c.adapters false b.steps)
    (h : stepsFollow (c.CallFollows n b.origin) b.steps block) : c.BundleValid b := by
  refine ⟨hv, fun p hp => ?_⟩
  obtain ⟨action, ⟨r, callee, hr, hcallee, hcheck, -⟩, -⟩ :=
    (stepsFollow_called b.steps h).bounded p hp
  obtain ⟨d, hload⟩ := hcallee.load
  exact ⟨r, d, hr, hload, hcallee.signature hload ▸ hcheck⟩

theorem CalleeFollows.bundleValid {n : Nat} {r : Reference} {callee : CompiledShared Action}
    (h : c.CalleeFollows n r callee) {d : SharedDefinition} (hd : c.library.load r = .ok d) :
    c.BundleValid (c.bundle r d) := by
  cases n with
  | zero => exact h.elim
  | succ n =>
    obtain ⟨d', body, hload, hvalid, hbody, -⟩ := calleeFollows_succ.1 h
    rw [hload] at hd
    cases hd
    exact bundleValid_of_follows hvalid hbody

/-- A bundle that is compiled to a block that is not too high is well formed. -/
theorem wellFormed_of_follows {n : Nat} {b : Bundle} {block : Block}
    (hv : BlockValid c.adapters false b.steps)
    (h : stepsFollow (c.CallFollows n b.origin) b.steps block)
    (hd : Block.sharedHeight block ≤ c.maxDepth) : c.WellFormed b where
  valid := bundleValid_of_follows hv h
  shared r hr d hload := by
    obtain ⟨n', callee, hcallee⟩ := calleeFollows_of_reaches h hr
    exact hcallee.bundleValid hload
  acyclic r hr := by
    obtain ⟨n', callee, hcallee⟩ := calleeFollows_of_reaches h hr
    exact not_transGen_self callee.height hcallee le_rfl
  depth rs hrs := by
    cases rs with
    | nil => exact Nat.zero_le _
    | cons r rest =>
      obtain ⟨callee, hcallee, hheight⟩ := calleeFollows_of_leads h (hrs.1 r rfl)
      have hlength := hcallee.length_lt hrs.2
      rw [List.length_cons]
      omega

end Runbook.Compiler
