import Mathlib.Data.Set.Card
import Runbook.Loop.Items
import Runbook.Proofs.Run.PassLog

/-!
# Passes over a range

How many numbers a range has, that machine words are wide enough to find them, and that a loop over
a range has a pass for each number until one ends it.

* `within` are the positions of the numbers of a range, and `encard_within` says that `spanCount`
  counts them;
* `wordLength?` and `wordValue?` are `spanLength` and `spanValue` in words of 128 bits, without a
  result if an operation overflows; a number is narrowed to 64 bits in the end;
* `wordLength?_eq` and `wordValue?_eq` say that nothing overflows if the ends of the range and the
  stride are words of 64 bits, and that a number of the range is the same after it is narrowed;
* `RangeLoop.Ended` lists the ways in which the passes come to an end, and `ended_rangePasses` says
  that there are no others, by induction on the numbers that are left;
* `act_range_passes` is the result.
-/

namespace Runbook.Loop

variable {first last stride : Int}

/-! ## Counting -/

/-- A position whose number lies between the ends, seen in the direction of the stride. -/
def Within (first last stride : Int) (k : Nat) : Prop :=
  (0 < stride ∧ first ≤ spanValue first stride k ∧ spanValue first stride k ≤ last) ∨
    (stride < 0 ∧ last ≤ spanValue first stride k ∧ spanValue first stride k ≤ first)

/-- The positions of the numbers of a range. -/
def within (first last stride : Int) : Set Nat := {k | Within first last stride k}

/-- As many steps of a positive width as there is room for. -/
theorem mul_le_iff_lt_count {width size : Int} (hwidth : 0 < width) (hsize : 0 ≤ size) (k : Nat) :
    k * width ≤ size ↔ k < (size / width).toNat + 1 := by
  have hquot : 0 ≤ size / width := Int.ediv_nonneg hsize (Int.le_of_lt hwidth)
  rw [← Int.le_ediv_iff_mul_le hwidth]
  omega

/-- The positions of the numbers of a range are those below their count. -/
theorem within_iff_lt_spanCount (hstride : stride ≠ 0) (k : Nat) :
    Within first last stride k ↔ k < spanCount first last stride := by
  unfold Within spanCount spanValue
  rcases lt_or_gt_of_ne hstride with hneg | hpos
  · have hroom : (k : Int) * -stride = -(k * stride) := Int.mul_neg _ _
    have hsteps : 0 ≤ (k : Int) * -stride := Int.mul_nonneg (Int.natCast_nonneg k) (by omega)
    rw [if_neg (by omega)]
    by_cases hends : last ≤ first
    · have hwidth : 0 < -stride := by omega
      have hsize : 0 ≤ first - last := by omega
      rw [if_pos ⟨hneg, hends⟩, ← mul_le_iff_lt_count hwidth hsize]
      omega
    · rw [if_neg (by omega)]
      omega
  · have hsteps : 0 ≤ (k : Int) * stride := Int.mul_nonneg (Int.natCast_nonneg k) (by omega)
    by_cases hends : first ≤ last
    · have hsize : 0 ≤ last - first := by omega
      rw [if_pos ⟨hpos, hends⟩, ← mul_le_iff_lt_count hpos hsize]
      omega
    · rw [if_neg (by omega), if_neg (by omega)]
      omega

/-- A range has as many numbers as are counted. -/
theorem encard_within (hstride : stride ≠ 0) :
    (within first last stride).encard = spanCount first last stride := by
  have hset : within first last stride = Finset.range (spanCount first last stride) := by
    ext k
    rw [Finset.coe_range, Set.mem_Iio]
    exact within_iff_lt_spanCount hstride k
  rw [hset, Set.encard_coe_eq_coe_finsetCard, Finset.card_range]

/-- A range that is not too long for a loop has as many passes as numbers. -/
theorem spanLength_eq_spanCount (hstride : stride ≠ 0)
    (hcount : (within first last stride).encard ≤ countLimit) :
    spanLength first last stride = spanCount first last stride := by
  rw [encard_within hstride] at hcount
  exact Nat.min_eq_left (Nat.cast_le.1 hcount)

/-- A pass of a loop over a range has a number of the range. -/
theorem within_of_lt_spanLength (hstride : stride ≠ 0) {k : Nat}
    (hk : k < spanLength first last stride) : Within first last stride k :=
  (within_iff_lt_spanCount hstride k).2 (Nat.lt_of_lt_of_le hk (Nat.min_le_left _ _))

/-! ## Words -/

/-- A signed word of so many bits can hold the number. -/
def Fits (bits : Nat) (i : Int) : Prop := -2 ^ (bits - 1) ≤ i ∧ i < 2 ^ (bits - 1)

instance (bits : Nat) (i : Int) : Decidable (Fits bits i) := inferInstanceAs (Decidable (_ ∧ _))

/-- The result of an operation on words of 128 bits, if it does not overflow. -/
def word? (i : Int) : Option Int := if Fits 128 i then some i else none

theorem word?_eq {i : Int} (h : Fits 128 i) : word? i = some i := if_pos h

/-- The numbers of a range of a certain size, as far as a loop counts, by a division that rounds
towards zero. -/
def wordSteps? (size width : Int) : Option Nat := do
  let steps ← word? (size.tdiv width)
  let count ← word? (steps + 1)
  return min count.toNat countLimit

/-- `spanLength` in words. -/
def wordLength? (first last stride : Int) : Option Nat :=
  if 0 < stride ∧ first ≤ last then do
    wordSteps? (← word? (last - first)) stride
  else if stride < 0 ∧ last ≤ first then do
    wordSteps? (← word? (first - last)) (← word? (-stride))
  else some 0

/-- `spanValue` in words. -/
def wordValue? (first stride : Int) (pass : Nat) : Option Int := do
  let offset ← word? ((← word? pass) * stride)
  let value ← word? (first + offset)
  return (Int64.ofInt value).toInt

theorem wordSteps?_eq {size width : Int} (hwidth : 0 < width) (hsize : 0 ≤ size)
    (hfits : size < 2 ^ 64) :
    wordSteps? size width = some (min ((size / width).toNat + 1) countLimit) := by
  have hquot : 0 ≤ size / width := Int.ediv_nonneg hsize (Int.le_of_lt hwidth)
  have hle : size / width ≤ size := Int.ediv_le_self _ hsize
  have hnext : (size / width + 1).toNat = (size / width).toNat + 1 :=
    Int.toNat_add hquot (by decide)
  rw [wordSteps?, Int.tdiv_eq_ediv_of_nonneg hsize, word?_eq ⟨by omega, by omega⟩]
  show (word? (size / width + 1)).bind _ = _
  rw [word?_eq ⟨by omega, by omega⟩]
  show some (min (size / width + 1).toNat countLimit) = _
  rw [hnext]

/-- Words are wide enough to count the passes. -/
theorem wordLength?_eq (hfirst : Fits 64 first) (hlast : Fits 64 last) (hstride : Fits 64 stride) :
    wordLength? first last stride = some (spanLength first last stride) := by
  obtain ⟨hfirst₁, hfirst₂⟩ := hfirst
  obtain ⟨hlast₁, hlast₂⟩ := hlast
  obtain ⟨hstride₁, hstride₂⟩ := hstride
  unfold wordLength? spanLength spanCount
  by_cases hup : 0 < stride ∧ first ≤ last
  · rw [if_pos hup, if_pos hup, word?_eq ⟨by omega, by omega⟩]
    exact wordSteps?_eq hup.1 (by omega) (by omega)
  · rw [if_neg hup, if_neg hup]
    by_cases hdown : stride < 0 ∧ last ≤ first
    · rw [if_pos hdown, if_pos hdown, word?_eq ⟨by omega, by omega⟩,
        word?_eq (i := -stride) ⟨by omega, by omega⟩]
      exact wordSteps?_eq (by omega) (by omega) (by omega)
    · rw [if_neg hdown, if_neg hdown, Nat.min_eq_left (Nat.zero_le _)]

/-- Words are wide enough to find the numbers, and each of them is again a word of 64 bits. -/
theorem wordValue?_eq (hfirst : Fits 64 first) (hlast : Fits 64 last) (hstride : stride ≠ 0)
    {k : Nat} (hk : k < spanLength first last stride) :
    wordValue? first stride k = some (spanValue first stride k) ∧
      Fits 64 (spanValue first stride k) := by
  obtain ⟨hfirst₁, hfirst₂⟩ := hfirst
  obtain ⟨hlast₁, hlast₂⟩ := hlast
  have hpass : k < 2 ^ 64 := Nat.lt_of_lt_of_le hk
    (Nat.le_trans (Nat.min_le_right _ _) (by decide))
  have hvalue : Fits 64 (spanValue first stride k) := by
    rcases within_of_lt_spanLength hstride hk with ⟨-, hle, hge⟩ | ⟨-, hle, hge⟩
    · exact ⟨by omega, by omega⟩
    · exact ⟨by omega, by omega⟩
  obtain ⟨hvalue₁, hvalue₂⟩ := hvalue
  -- the product is the way from the first number to this one
  have hoffset : (k : Int) * stride = spanValue first stride k - first := by
    unfold spanValue
    omega
  have hnarrow : (Int64.ofInt (spanValue first stride k)).toInt = spanValue first stride k :=
    Int64.toInt_ofInt_of_le hvalue₁ hvalue₂
  refine ⟨?_, hvalue₁, hvalue₂⟩
  rw [wordValue?, word?_eq ⟨by omega, by omega⟩]
  show (word? (k * stride)).bind (fun offset => (word? (first + offset)).bind _) = _
  rw [word?_eq ⟨by omega, by omega⟩]
  show (word? (spanValue first stride k)).bind _ = _
  rw [word?_eq ⟨by omega, by omega⟩]
  exact congrArg some hnarrow

end Runbook.Loop

/-!
## Numbers and passes

A loop over a range finds out its ends once, and has a pass for each number until one ends it.  Each
pass begins with its own number.
-/

namespace Runbook

variable {W : Type}

namespace RangeLoop

/-- The number of a pass of a loop from a certain number on. -/
def number (loop : RangeLoop) (first : Int) (k : Nat) : Value :=
  .int (Loop.spanValue first loop.stride k)

/-- The state in which a pass begins after others: there may be one more, and the variables are
those that they left, with the next number. -/
def Begins (loop : RangeLoop) (first : Int) (total : Nat) (s : RunState W)
    (passes : List (LoopPass W)) (start : RunState W) : Prop :=
  passes.length < total ∧
    start.progress.vars =
      (s.leftBy passes).progress.vars.insert loop.var (loop.number first passes.length)

/-- The loop goes on after the pass if there are more numbers. -/
def GoesOn (p : LoopPass W) : Prop := p.result = .ok () ∧ ¬ p.Leaves

/-- The ways in which the passes of a loop come to an end. -/
inductive Ended (total : Nat) (passes : List (LoopPass W)) : Except Halt Nat → Prop
  /-- No numbers are left. -/
  | spent (hlength : passes.length = total) (hgo : ∀ p ∈ passes, GoesOn p) :
    Ended total passes (.ok passes.length)
  /-- The last pass asked to leave the loop. -/
  | left (p : LoopPass W) (hlast : passes.getLast? = some p) (hok : p.result = .ok ())
    (hleaves : p.Leaves) : Ended total passes (.ok passes.length)
  /-- The last pass halted. -/
  | failed (p : LoopPass W) (halt : Halt) (hlast : passes.getLast? = some p)
    (hhalt : p.result = .error halt) : Ended total passes (.error halt)

/-- What the loop comes to after so many passes. -/
def summary (iterations : Nat) : Value := .ofFields [("iterations", .int iterations)]

end RangeLoop

/-- The state in which the body of a pass begins: the number is bound, and the pass is noted. -/
def RunState.numbered (s : RunState W) (loop : RangeLoop) (first : Int) (k : Nat) : RunState W :=
  { s with progress := (s.progress.bind loop.var (loop.number first k)).setCursor k }

namespace Run

open Portion

variable (site : LoopSite) (loop : RangeLoop) (first : Int) {body : Run W Unit} {s : RunState W}

/-! ### Passes -/

/-- The next number is bound for a pass. -/
theorem rangePasses_logged {p : LoopPass W} {t : RunState (W × List (LoopPass W))}
    (left done : Nat) (hp : p = .of body ((t.numbered loop first done).seen Prod.fst)) :
    rangePasses loop first (logged body) (left + 1) done t =
      match p.result with
      | .error halt => (.error halt, p.finish.paired (t.world.2 ++ [p]))
      | .ok () =>
        if p.Leaves then (.ok (done + 1), p.finish.quieted.paired (t.world.2 ++ [p]))
        else rangePasses loop first (logged body) left (done + 1)
          (p.finish.quieted.paired (t.world.2 ++ [p])) := by
  have hpass : logged body (t.numbered loop first done) =
      (p.result, p.finish.paired (t.world.2 ++ [p])) := by
    rw [hp]
    rfl
  have hopens : rangePasses loop first (logged body) (left + 1) done t =
      (do
        logged body
        if (← takeSignal) = .leave then return done + 1
        rangePasses loop first (logged body) left (done + 1) :
        Run (W × List (LoopPass W)) Nat) (t.numbered loop first done) := by
    rw [rangePasses]
    rfl
  rw [hopens]
  cases hresult : p.result with
  | error halt => rw [bind_error (hresult ▸ hpass)]
  | ok _ =>
    rw [bind_ok (hresult ▸ hpass), bind_ok (takeSignal_apply _)]
    by_cases hleaves : p.Leaves
    · rw [if_pos hleaves, if_pos (show (p.finish.paired _).progress.signal = .leave from hleaves)]
      rfl
    · rw [if_neg hleaves,
        if_neg (show ¬ (p.finish.paired _).progress.signal = .leave from hleaves)]
      rfl

/-- What the loop comes to from between two passes on. -/
theorem ended_rangePasses (total left : Nat) :
    ∀ (done : Nat) (t : RunState (W × List (LoopPass W))),
      left + done = total → t.world.2.length = done →
      Between (·.progress.vars) s body (loop.Begins first total s) RangeLoop.GoesOn t →
        Ends (rangePasses loop first (logged body) left done) t (fun r u =>
          Chained body (loop.Begins first total s) RangeLoop.GoesOn u.world.2 ∧
            RangeLoop.Ended total u.world.2 r) := by
  induction left with
  | zero =>
    rintro _ t hdone rfl ht
    have hlength : t.world.2.length = total := by omega
    exact ⟨ht.chained, .spent hlength ht.goesOn⟩
  | succ left ih =>
    rintro _ t hdone rfl ht
    obtain ⟨p, hp⟩ : ∃ p, p =
      LoopPass.of body ((t.numbered loop first t.world.2.length).seen Prod.fst) := ⟨_, rfl⟩
    have hran : body p.start = (p.result, p.finish) := by rw [hp]; rfl
    have hbegins : loop.Begins first total s t.world.2 p.start := by
      have hvars : t.progress.vars = (s.leftBy t.world.2).progress.vars := ht.left
      refine ⟨by omega, ?_⟩
      rw [← hvars, hp]
      exact vars_onFrame _ _
    have hchained := ht.chained.concat ht.goesOn hran hbegins
    have hlast : (t.world.2 ++ [p]).getLast? = some p := List.getLast?_concat
    have hcount : (t.world.2 ++ [p]).length = t.world.2.length + 1 := List.length_append
    rw [Ends, rangePasses_logged loop first left _ hp]
    cases hresult : p.result with
    | error halt => exact ⟨hchained, .failed p halt hlast hresult⟩
    | ok _ =>
      dsimp only
      by_cases hleaves : p.Leaves
      · rw [if_pos hleaves, ← hcount]
        exact ⟨hchained, .left p hlast hresult hleaves⟩
      · rw [if_neg hleaves]
        exact ih _ _ (by omega) hcount (ht.next hran hbegins ⟨hresult, hleaves⟩ rfl rfl)

variable {first} {last : Int}

/-- A loop over a range whose ends are found goes by what its passes come to. -/
theorem ended_rangeLoop (body : Run W Unit) (s : RunState W)
    (hfirst : Loop.resolveBound s.progress.vars loop.first = .ok first)
    (hlast : Loop.resolveBound s.progress.vars loop.last = .ok last) :
    let total := Loop.spanLength first last loop.stride
    Ends (rangeLoop site loop (logged body)) (s.paired []) (fun r u =>
      Chained body (loop.Begins first total s) RangeLoop.GoesOn u.world.2 ∧
        ∃ e, RangeLoop.Ended total u.world.2 e ∧ r = e.map RangeLoop.summary) := by
  intro total
  obtain ⟨t, ht⟩ : ∃ t, t = entered site .range [loop.var]
    (s.paired ([] : List (LoopPass W))) := ⟨_, rfl⟩
  obtain ⟨u, hu⟩ : ∃ u, u = { t with progress := t.progress.setTotal total } := ⟨_, rfl⟩
  obtain ⟨v, hreport, hprogress, hworld⟩ := report_apply (.info
    s!"[Loop] range '{site.path}' {first}..={last} step {loop.stride} ({total} passes)") u
  have hvars : currentVars t = (.ok s.progress.vars, t) := by rw [ht]; rfl
  have hcheck {bound : Bound} {n : Int} (h : Loop.resolveBound s.progress.vars bound = .ok n) :
      site.check (Loop.resolveBound s.progress.vars bound) t = (.ok n, t) := by
    rw [h]
    rfl
  have htotal : update (·.setTotal total) t = (.ok (), u) := by rw [hu]; rfl
  have hlog : v.world.2 = [] := by rw [hworld, hu, ht]; rfl
  have hbetween : Between (·.progress.vars) s body (loop.Begins first total s) RangeLoop.GoesOn
      v := by
    refine ⟨hlog ▸ chained_nil, fun p hp => ?_, ?_⟩
    · rw [hlog] at hp
      exact absurd hp List.not_mem_nil
    · rw [hlog]
      show v.progress.vars = s.progress.vars
      rw [hprogress, hu, ht]
      exact vars_onFrame _ _
  have hpasses := ended_rangePasses loop first total total 0 v rfl (by rw [hlog]; rfl) hbetween
  refine ends_closed ?_
  rw [← ht]
  refine Ends.bind_ok hvars (Ends.bind_ok (hcheck hfirst) (Ends.bind_ok (hcheck hlast)
    (Ends.bind_ok htotal (Ends.bind_ok hreport (Ends.bind hpasses ?_ ?_)))))
  · rintro iterations w ⟨hchained, hended⟩
    exact ⟨hchained, _, hended, rfl⟩
  · rintro halt w ⟨hchained, hended⟩
    exact ⟨hchained, _, hended, rfl⟩

/-! ### Results -/

variable {loop} {total : Nat} {passes : List (LoopPass W)} {r : Except Halt Nat}

/-- There are no more passes than numbers. -/
theorem range_length_le (hc : Chained body (loop.Begins first total s) RangeLoop.GoesOn passes) :
    passes.length ≤ total := by
  rcases Nat.eq_zero_or_pos passes.length with hnone | hsome
  · omega
  · obtain ⟨hlt, -⟩ := hc.opened (passes.length - 1) _
      (List.getElem?_eq_getElem (Nat.sub_lt hsome Nat.one_pos))
    rw [List.length_take_of_le (Nat.sub_le _ _)] at hlt
    omega

/-- A loop in which every pass went on had a pass for each number. -/
theorem range_whole (he : RangeLoop.Ended total passes r)
    (hgo : ∀ p ∈ passes, RangeLoop.GoesOn p) : passes.length = total ∧ r = .ok total := by
  cases he with
  | spent hlength _ => exact ⟨hlength, congrArg Except.ok hlength⟩
  | left p hlast _ hleaves => exact absurd hleaves (hgo p (List.mem_of_getLast? hlast)).2
  | failed p halt hlast hhalt =>
    rw [(hgo p (List.mem_of_getLast? hlast)).1] at hhalt
    cases hhalt

/-- A loop halts for what a pass halts for. -/
theorem range_fails (hc : Chained body (loop.Begins first total s) RangeLoop.GoesOn passes)
    (he : RangeLoop.Ended total passes r) {p : LoopPass W} (hp : p ∈ passes) {halt : Halt}
    (hhalt : p.result = .error halt) : r = .error halt := by
  have hstops : ¬ RangeLoop.GoesOn p := fun hgo => by
    rw [hgo.1] at hhalt
    cases hhalt
  have hlast := hc.getLast?_eq hp hstops
  cases he with
  | spent _ hgo => exact absurd (hgo p hp) hstops
  | left q hq hok _ =>
    obtain rfl := Option.some.inj (hq.symm.trans hlast)
    rw [hok] at hhalt
    cases hhalt
  | failed q halt' hq hhalt' =>
    obtain rfl := Option.some.inj (hq.symm.trans hlast)
    rw [Except.error.inj (hhalt'.symm.trans hhalt)]

/-- Each pass begins with its own number, in order. -/
theorem range_numbers (hc : Chained body (loop.Begins first total s) RangeLoop.GoesOn passes) :
    passes.map (fun p => p.start.progress.vars.find? loop.var) =
      (List.range passes.length).map (fun k => some (loop.number first k)) := by
  refine List.ext_getElem? fun k => ?_
  rw [List.getElem?_map, List.getElem?_map]
  by_cases hlt : k < passes.length
  · have hk := List.getElem?_eq_getElem hlt
    obtain ⟨-, hvars⟩ := hc.opened k _ hk
    rw [length_take_of_getElem? hk] at hvars
    rw [hk, List.getElem?_range hlt, Option.map_some, Option.map_some, hvars,
      KeyMap.find?_insert_self]
  · rw [List.getElem?_eq_none (Nat.not_lt.1 hlt), List.getElem?_eq_none (by simpa using hlt)]
    rfl

/-- **What a loop over a range does.**  Let the ends of a range and its stride be words of 64 bits,
the stride not zero, and the range not longer than a loop counts.  The loop counts exactly the
positions whose numbers lie between the ends; neither the count nor a number of the range overflows
in words of 128 bits, and a number is still the same when it is narrowed to 64.  The run of the loop
is that of its passes, one after the other: each is a run of the body that begins with the variables
left by those before and with the next number, whatever those before made of the variable of the
loop or of those that the ends were taken from.  A pass that halts or asks to leave is the last, and
the loop halts for what a pass halts for.  If there is no such pass, the passes have all the numbers
of the range in order, and the loop comes to its end. -/
theorem act_range_passes (env : Setting W) (step : Step Unit) (loop : RangeLoop) (body : Block)
    (path : String) (index : Nat) (s : RunState W) {first last : Int}
    (hfirst : Loop.resolveBound s.progress.vars loop.first = .ok first)
    (hlast : Loop.resolveBound s.progress.vars loop.last = .ok last)
    (hends : Loop.Fits 64 first ∧ Loop.Fits 64 last)
    (hstride : Loop.Fits 64 loop.stride ∧ loop.stride ≠ 0)
    (hcount : (Loop.within first last loop.stride).encard ≤ Loop.countLimit) :
    let pass := block env body path
    let run := act env step (.range loop body) path index s
    let total := Loop.spanLength first last loop.stride
    (Loop.within first last loop.stride).encard = total ∧
    Loop.wordLength? first last loop.stride = some total ∧
    (∀ k < total,
      Loop.wordValue? first loop.stride k = some (Loop.spanValue first loop.stride k)) ∧
    ∃ passes : List (LoopPass W),
      rangeLoop ⟨step.name, index, path⟩ loop (logged pass) (s.paired []) =
        (run.1, run.2.paired passes) ∧
      passes.length ≤ total ∧
      (∀ k p, passes[k]? = some p →
        pass p.start = (p.result, p.finish) ∧
        p.start.progress.vars = (s.leftBy (passes.take k)).progress.vars.insert loop.var
          (.int (Loop.spanValue first loop.stride k))) ∧
      (∀ k p, passes[k]? = some p → p.result ≠ .ok () ∨ p.Leaves → passes.length = k + 1) ∧
      (∀ p ∈ passes, ∀ halt, p.result = .error halt → run.1 = .error halt) ∧
      ((∀ p ∈ passes, p.result = .ok () ∧ ¬ p.Leaves) →
        passes.map (fun p => p.start.progress.vars.find? loop.var) =
          (List.range total).map (fun k => some (.int (Loop.spanValue first loop.stride k))) ∧
        run.1 = .ok (RangeLoop.summary total)) := by
  intro pass run total
  let site : LoopSite := ⟨step.name, index, path⟩
  have hact : rangeLoop site loop pass s = run := by
    show _ = act env step (.range loop body) path index s
    rw [act]
    rfl
  obtain ⟨passes, hrun, hchained, e, hended, hresult⟩ :=
    (mirrors_rangeLoop site pass loop).ends_paired (ended_rangeLoop site loop pass s hfirst hlast)
  rw [hact] at hrun hresult
  rw [paired_snd] at hchained hended
  refine ⟨?_, Loop.wordLength?_eq hends.1 hends.2 hstride.1, fun k hk =>
    (Loop.wordValue?_eq hends.1 hends.2 hstride.2 hk).1, passes, hrun, range_length_le hchained,
    ?_, ?_, ?_, ?_⟩
  · rw [Loop.encard_within hstride.2, ← Loop.spanLength_eq_spanCount hstride.2 hcount]
  · intro k p hk
    obtain ⟨-, hvars⟩ := hchained.opened k p hk
    rw [length_take_of_getElem? hk] at hvars
    exact ⟨hchained.ran p (List.mem_of_getElem? hk), hvars⟩
  · intro k p hk hstops
    exact hchained.length_eq hk fun hgo => hstops.elim (fun h => h hgo.1) hgo.2
  · intro p hp halt hhalt
    obtain rfl := range_fails hchained hended hp hhalt
    exact hresult
  · intro hgo
    obtain ⟨hlength, rfl⟩ := range_whole hended hgo
    have hnumbers := range_numbers hchained
    rw [hlength] at hnumbers
    exact ⟨hnumbers, hresult⟩

/-- Steps that write to the number of the pass, and to a variable that an end was taken from. -/
def movingEnd : Block :=
  [⟨"spoil", none, .stop, none, none, none, none, .set "n" (.int 9) false⟩,
    ⟨"move", none, .stop, none, none, none, none, .set "end" (.int 0) false⟩]

/-- A loop down to the least word of 64 bits, which is read from a variable. -/
def toLeast : RangeLoop :=
  ⟨.int 9223372036854775807, .template "{end}", -9223372036854775808, "n"⟩

/-- The state in which that loop begins. -/
def atLeast : RunState Unit :=
  { fresh with progress := fresh.progress.bind "end" (.int (-9223372036854775808)) }

/-- Both passes begin with their own number, though the first wrote to it and to the end. -/
theorem act_range_passes_moved : ∃ passes : List (LoopPass Unit),
    passes.map (fun p => p.start.progress.vars.find? "n") =
        [some (.int 9223372036854775807), some (.int (-1))] ∧
      (act (bareSetting 10) loopStep (.range toLeast movingEnd) "loop" 0 atLeast).1 =
        .ok (RangeLoop.summary 2) := by
  have hfirst : Loop.resolveBound atLeast.progress.vars toLeast.first =
    .ok 9223372036854775807 := by decide +kernel
  have hlast : Loop.resolveBound atLeast.progress.vars toLeast.last =
    .ok (-9223372036854775808) := by decide +kernel
  have hcount : (Loop.within 9223372036854775807 (-9223372036854775808) toLeast.stride).encard ≤
      Loop.countLimit := by
    rw [Loop.encard_within (by decide)]
    decide
  obtain ⟨-, -, -, passes, hlog, -, -, -, -, hends⟩ :=
    act_range_passes (bareSetting 10) loopStep toLeast movingEnd "loop" 0 atLeast hfirst hlast
      (by decide) (by decide) hcount
  obtain rfl : (rangeLoop loopSite toLeast (logged (block (bareSetting 10) movingEnd "loop"))
    (atLeast.paired [])).2.world.2 = passes := congrArg (·.2.world.2) hlog
  obtain ⟨hnumbers, hend⟩ := hends (by decide +kernel)
  exact ⟨_, hnumbers, hend⟩

end Run

end Runbook
