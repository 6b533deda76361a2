import Mathlib.Algebra.Order.Group.Unbundled.Int
import Mathlib.Tactic.Ring
import Mathlib.Tactic.SplitIfs
import Runbook.Proofs.Number.Decimal

/-!
# Whole numbers as doubles

A double has 53 significant bits, so a whole number of more bits is rounded.

* `Binary64.roundHalfEven_mono`, `Binary64.roundHalfEven_mul` and `Binary64.roundHalfEven_scale` are
  what there is to know of rounding a quotient;
* `Binary64.nearest` is the whole number that a whole number is rounded to, and
  `Binary64.toUnits_ofInt` says that the bits of `Binary64.ofInt` stand for it;
* `Binary64.nearest_closest` says that no whole number of 53 significant bits is closer;
* `Binary64.nearest_mono` says that rounding keeps the order, and `Binary64.nearest_of_small` that
  whole numbers up to `2 ^ 53` stay as they are.
-/

namespace Runbook.Binary64

variable {m n num num' den k : Nat}

/-! ## Rounding quotients -/

/-- A quotient is rounded down or up, never away from the nearer side. -/
theorem roundHalfEven_cases (num den : Nat) :
    (roundHalfEven num den = num / den ∧ 2 * (num % den) ≤ den) ∨
      (roundHalfEven num den = num / den + 1 ∧ den ≤ 2 * (num % den)) := by
  unfold roundHalfEven
  dsimp only
  split
  · exact .inl ⟨rfl, by omega⟩
  · split
    · exact .inr ⟨rfl, by omega⟩
    · -- a tie
      rcases Nat.mod_two_eq_zero_or_one (num / den) with heven | hodd
      · exact .inl ⟨by omega, by omega⟩
      · exact .inr ⟨by omega, by omega⟩

theorem roundHalfEven_mono (h : num ≤ num') (den : Nat) :
    roundHalfEven num den ≤ roundHalfEven num' den := by
  have hle : num / den ≤ num' / den := Nat.div_le_div_right h
  rcases Nat.lt_or_eq_of_le hle with hlt | heq
  · have hbelow : num' / den ≤ roundHalfEven num' den := by
      rcases roundHalfEven_cases num' den with hcase | hcase <;> omega
    exact (roundHalfEven_le num den).trans (Nat.le_trans hlt hbelow)
  · -- with the same quotient the remainder decides
    have hrest : num % den ≤ num' % den := by
      have hnum := Nat.div_add_mod num den
      have hnum' := Nat.div_add_mod num' den
      rw [← heq] at hnum'
      omega
    unfold roundHalfEven
    dsimp only
    rw [← heq]
    split_ifs <;> omega

/-- A whole quotient stays as it is. -/
theorem roundHalfEven_mul (q : Nat) (hden : 0 < den) : roundHalfEven (q * den) den = q := by
  unfold roundHalfEven
  dsimp only
  rw [Nat.mul_mod_left, Nat.mul_div_cancel q hden, if_pos (by omega)]

/-- Only the quotient matters. -/
theorem roundHalfEven_scale (num den : Nat) (hk : 0 < k) :
    roundHalfEven (num * k) (den * k) = roundHalfEven num den := by
  unfold roundHalfEven
  dsimp only
  rw [Nat.mul_div_mul_right num den hk, Nat.mul_mod_mul_right, ← Nat.mul_assoc]
  simp only [Nat.mul_lt_mul_right hk]

/-- A shift that leaves 53 bits leaves them after rounding, or rounds up to the next power of two. -/
theorem roundHalfEven_kept {shift : Nat} (hnum : num ≠ 0) (hlog : num.log2 = 52 + shift) :
    2 ^ 52 ≤ roundHalfEven num (2 ^ shift) ∧ roundHalfEven num (2 ^ shift) ≤ 2 ^ 53 := by
  have hpos : 0 < 2 ^ shift := Nat.two_pow_pos shift
  obtain ⟨hlow, hhigh⟩ := (Nat.log2_eq_iff hnum).1 hlog
  rw [Nat.pow_add] at hlow
  rw [Nat.add_right_comm, Nat.pow_add] at hhigh
  have hfloor := roundHalfEven_mono hlow (2 ^ shift)
  have hceil := roundHalfEven_mono hhigh.le (2 ^ shift)
  rw [roundHalfEven_mul _ hpos] at hfloor hceil
  exact ⟨hfloor, hceil⟩

/-! ## The nearest whole number of 53 bits -/

/-- How far apart the whole doubles around a whole number are. -/
def spacing (m : Nat) : Nat := 2 ^ (m.log2 - 52)

/-- The nearest multiple of the spacing, a tie going to the even one. -/
def nearestNat (m : Nat) : Nat := roundHalfEven m (spacing m) * spacing m

/-- The whole number that a whole number is rounded to. -/
def nearest (i : Int) : Int := if i < 0 then -(nearestNat i.natAbs : Int) else nearestNat i.natAbs

theorem twoTo_pos (e : Nat) : 0 < twoTo e := Nat.two_pow_pos e

theorem spacing_pos (m : Nat) : 0 < spacing m := Nat.two_pow_pos _

theorem log2_bounds (hm : m ≠ 0) : 2 ^ m.log2 ≤ m ∧ m < 2 ^ (m.log2 + 1) :=
  (Nat.log2_eq_iff hm).1 rfl

theorem log2_mul_twoTo (hm : m ≠ 0) (e : Nat) : (m * twoTo e).log2 = m.log2 + e := by
  obtain ⟨hlow, hhigh⟩ := log2_bounds hm
  have hpos : 0 < twoTo e := twoTo_pos e
  rw [Nat.log2_eq_iff (Nat.mul_ne_zero hm hpos.ne')]
  constructor
  · rw [Nat.pow_add]
    exact Nat.mul_le_mul_right _ hlow
  · rw [Nat.add_right_comm, Nat.pow_add]
    exact Nat.mul_lt_mul_of_pos_right hhigh hpos

theorem nearestNat_zero : nearestNat 0 = 0 := by decide

/-- Whole numbers of at most 53 bits stay as they are. -/
theorem nearestNat_of_log2 (h : m.log2 ≤ 52) : nearestNat m = m := by
  have hone : spacing m = 1 := by rw [spacing, Nat.sub_eq_zero_of_le h, Nat.pow_zero]
  have hkeep := roundHalfEven_mul m Nat.one_pos
  rw [nearestNat, hone, Nat.mul_one]
  rwa [Nat.mul_one] at hkeep

theorem nearestNat_of_small (h : m ≤ 2 ^ 53) : nearestNat m = m := by
  rcases Nat.lt_or_eq_of_le h with hlt | rfl
  · refine nearestNat_of_log2 ?_
    by_cases hm : m = 0
    · rw [hm]
      decide
    · exact Nat.le_of_lt_succ ((Nat.log2_lt hm).2 hlt)
  · decide +kernel

/-- A whole number of more bits keeps 53 of them. -/
theorem roundHalfEven_spacing (h : 52 < m.log2) :
    2 ^ 52 ≤ roundHalfEven m (spacing m) ∧ roundHalfEven m (spacing m) ≤ 2 ^ 53 := by
  refine roundHalfEven_kept ?_ (by omega)
  rintro rfl
  rw [Nat.log2_zero] at h
  omega

theorem two_pow_mul_spacing (bits : Nat) (h : 52 < m.log2) :
    2 ^ (52 + bits) * spacing m = 2 ^ (m.log2 + bits) := by
  rw [spacing, ← Nat.pow_add, show 52 + bits + (m.log2 - 52) = m.log2 + bits by omega]

/-- Rounding leaves a whole number between the powers of two around it. -/
theorem nearestNat_bounds (hm : m ≠ 0) :
    2 ^ m.log2 ≤ nearestNat m ∧ nearestNat m ≤ 2 ^ (m.log2 + 1) := by
  by_cases hsize : m.log2 ≤ 52
  · obtain ⟨hlow, hhigh⟩ := log2_bounds hm
    rw [nearestNat_of_log2 hsize]
    exact ⟨hlow, hhigh.le⟩
  · obtain ⟨hatLeast, hatMost⟩ := roundHalfEven_spacing (Nat.lt_of_not_le hsize)
    rw [← two_pow_mul_spacing 1 (Nat.lt_of_not_le hsize)]
    have hfloor := two_pow_mul_spacing 0 (Nat.lt_of_not_le hsize)
    rw [Nat.add_zero, Nat.add_zero] at hfloor
    rw [← hfloor]
    exact ⟨Nat.mul_le_mul_right _ hatLeast, Nat.mul_le_mul_right _ hatMost⟩

theorem nearestNat_mono (h : m ≤ n) : nearestNat m ≤ nearestNat n := by
  by_cases hm : m = 0
  · rw [hm, nearestNat_zero]
    exact Nat.zero_le _
  · have hn : n ≠ 0 := by omega
    have hlog : m.log2 ≤ n.log2 := by
      have hlow := (log2_bounds hm).1
      have hhigh := (log2_bounds hn).2
      have hlt : 2 ^ m.log2 < 2 ^ (n.log2 + 1) := by omega
      exact Nat.le_of_lt_succ ((Nat.pow_lt_pow_iff_right (by decide)).1 hlt)
    rcases Nat.lt_or_eq_of_le hlog with hlt | heq
    · -- a power of two lies between them
      calc nearestNat m ≤ 2 ^ (m.log2 + 1) := (nearestNat_bounds hm).2
        _ ≤ 2 ^ n.log2 := Nat.pow_le_pow_right (by decide) hlt
        _ ≤ nearestNat n := (nearestNat_bounds hn).1
    · have hspacing : spacing m = spacing n := by rw [spacing, spacing, heq]
      rw [nearestNat, nearestNat, hspacing]
      exact Nat.mul_le_mul_right _ (roundHalfEven_mono h _)

/-- The order of whole numbers is kept. -/
theorem nearest_mono {a b : Int} (h : a ≤ b) : nearest a ≤ nearest b := by
  unfold nearest
  split
  · split
    · have hsize : nearestNat b.natAbs ≤ nearestNat a.natAbs := nearestNat_mono (by omega)
      omega
    · omega
  · split
    · omega
    · have hsize : nearestNat a.natAbs ≤ nearestNat b.natAbs := nearestNat_mono (by omega)
      omega

/-- The order shows in the rounded numbers unless two different numbers are rounded to the same. -/
theorem compare_nearest {a b : Int} (h : a = b ∨ nearest a ≠ nearest b) :
    Ord.compare (nearest a) (nearest b) = Ord.compare a b := by
  rcases Int.lt_trichotomy a b with hlt | rfl | hgt
  · have hle : nearest a ≤ nearest b := nearest_mono hlt.le
    rw [compare_lt_iff_lt.2 hlt, compare_lt_iff_lt.2 (by omega)]
  · rw [compare_eq_iff_eq.2 rfl, compare_eq_iff_eq.2 rfl]
  · have hle : nearest b ≤ nearest a := nearest_mono hgt.le
    rw [compare_gt_iff_gt.2 hgt, compare_gt_iff_gt.2 (by omega)]

theorem nearest_of_small {i : Int} (h : i.natAbs ≤ 2 ^ 53) : nearest i = i := by
  rw [nearest, nearestNat_of_small h]
  split <;> omega

/-! ## The bits of the nearest double -/

/-- The bits of 53 significant bits with a shift stand for the shifted number. -/
theorem unitsOfBits_shifted {r : Nat} (hlow : 2 ^ 52 ≤ r) (hhigh : r ≤ 2 ^ 53) (shift : Nat) :
    unitsOfBits (r + shift * twoTo 52) = r * 2 ^ shift := by
  have hpow : twoTo 52 = 2 ^ 52 := rfl
  unfold unitsOfBits
  dsimp only
  rcases Nat.lt_or_eq_of_le hhigh with hlt | rfl
  · have hdiv : (r + shift * twoTo 52) / twoTo 52 - 1 = shift := by
      rw [Nat.add_mul_div_right _ _ (by decide), Nat.div_eq_of_lt_le (k := 1)] <;> omega
    rw [hdiv, Nat.add_sub_cancel]
    rfl
  · -- the carry goes into the exponent
    have hdiv : (2 ^ 53 + shift * twoTo 52) / twoTo 52 - 1 = shift + 1 := by
      rw [Nat.add_mul_div_right _ _ (by decide)]
      have : 2 ^ 53 / twoTo 52 = 2 := by decide
      omega
    have hrest : 2 ^ 53 + shift * twoTo 52 - (shift + 1) * twoTo 52 = 2 ^ 52 := by
      rw [Nat.add_mul]
      omega
    rw [hdiv, hrest, show twoTo (shift + 1) = 2 ^ (shift + 1) from rfl, Nat.pow_succ]
    ring

/-- A whole number times a power of two is rounded like the whole number. -/
theorem roundHalfEven_scaled {e shift : Nat} (he : 52 ≤ e)
    (hshift : shift = m.log2 + e - 52) :
    roundHalfEven (m * twoTo e) (2 ^ shift) * 2 ^ shift = nearestNat m * twoTo e := by
  rw [show twoTo e = 2 ^ e from rfl]
  by_cases hsize : m.log2 ≤ 52
  · -- nothing is rounded off
    have hexact : m * 2 ^ e = m * 2 ^ (52 - m.log2) * 2 ^ shift := by
      rw [Nat.mul_assoc, ← Nat.pow_add, show 52 - m.log2 + shift = e by omega]
    rw [hexact, roundHalfEven_mul _ (Nat.two_pow_pos shift), ← hexact, nearestNat_of_log2 hsize]
  · have hsplit : 2 ^ shift = spacing m * 2 ^ e := by
      rw [spacing, ← Nat.pow_add, show m.log2 - 52 + e = shift by omega]
    rw [hsplit, roundHalfEven_scale _ _ (Nat.two_pow_pos e), nearestNat, Nat.mul_assoc]

/-- The bits of the double nearest to a whole number stand for the number it is rounded to. -/
theorem unitsOfBits_bitsOfRatio (m : Nat) :
    unitsOfBits (bitsOfRatio m 1) = nearestNat m * twoTo unitExponent := by
  by_cases hm : m = 0
  · rw [hm, bitsOfRatio_zero, nearestNat_zero, Nat.zero_mul]
    decide
  have hscaled : m * twoTo unitExponent ≠ 0 := Nat.mul_ne_zero hm (twoTo_pos _).ne'
  have hlog : (m * twoTo unitExponent).log2 = m.log2 + unitExponent :=
    log2_mul_twoTo hm unitExponent
  have hunit : 52 ≤ unitExponent := by decide
  unfold bitsOfRatio
  dsimp only
  rw [Nat.div_one, Nat.one_mul, hlog]
  generalize hshift : m.log2 + unitExponent - 52 = shift
  obtain ⟨hatLeast, hatMost⟩ :=
    roundHalfEven_kept hscaled (show (m * twoTo unitExponent).log2 = 52 + shift by omega)
  exact (unitsOfBits_shifted hatLeast hatMost shift).trans
    (roundHalfEven_scaled hunit hshift.symm)

theorem toUnits_ofInt (i : Int) : (ofInt i).toUnits = nearest i * twoTo unitExponent := by
  have hunits : (ofInt i).units = nearestNat i.natAbs * twoTo unitExponent :=
    unitsOfBits_bitsOfRatio i.natAbs
  rw [toUnits, hunits, nearest]
  by_cases hi : i < 0
  · have hneg : (ofInt i).negative = true := decide_eq_true hi
    rw [if_pos hneg, if_pos hi]
    push_cast
    ring
  · have hneg : ¬ (ofInt i).negative = true := by simpa [ofInt] using hi
    rw [if_neg hneg, if_neg hi]
    push_cast
    ring

/-- Whole numbers compare as doubles like the numbers they are rounded to. -/
theorem compare_ofInt (a b : Int) :
    (ofInt a).compare (ofInt b) = Ord.compare (nearest a) (nearest b) := by
  have hpos : (0 : Int) < twoTo unitExponent := Int.natCast_pos.2 (twoTo_pos _)
  rw [compare, toUnits_ofInt, toUnits_ofInt]
  rcases Int.lt_trichotomy (nearest a) (nearest b) with hlt | heq | hgt
  · rw [compare_lt_iff_lt.2 hlt, compare_lt_iff_lt.2 (Int.mul_lt_mul_of_pos_right hlt hpos)]
  · rw [heq, compare_eq_iff_eq.2 rfl, compare_eq_iff_eq.2 rfl]
  · rw [compare_gt_iff_gt.2 hgt, compare_gt_iff_gt.2 (Int.mul_lt_mul_of_pos_right hgt hpos)]

/-! ## No closer whole number of 53 bits -/

/-- A whole number of at most 53 significant bits. -/
def Significant (i : Int) : Prop := ∃ m e : Nat, m < 2 ^ 53 ∧ i.natAbs = m * 2 ^ e

/-- No multiple of the divisor is closer than the rounded one. -/
theorem roundHalfEven_closest (num : Nat) (hden : 0 < den) (q : Int) :
    ((roundHalfEven num den * den : Nat) - num : Int).natAbs ≤ (q * den - num).natAbs := by
  have hnum : (num : Int) = (num / den : Nat) * den + (num % den : Nat) := by
    have := Nat.div_add_mod num den
    rw [Nat.mul_comm] at this
    omega
  have hrest : num % den < den := Nat.mod_lt _ hden
  have hsides : q * den ≤ (num / den : Nat) * den ∨ (num / den : Nat) * den + den ≤ q * den := by
    rcases lt_or_ge ((num / den : Nat) : Int) q with hq | hq
    · right
      have := Int.mul_le_mul_of_nonneg_right (Int.add_one_le_of_lt hq) (Int.natCast_nonneg den)
      rwa [Int.add_mul, Int.one_mul] at this
    · left
      exact Int.mul_le_mul_of_nonneg_right hq (Int.natCast_nonneg den)
  rcases roundHalfEven_cases num den with ⟨hround, htie⟩ | ⟨hround, htie⟩
  · rw [hround, Nat.cast_mul]
    omega
  · rw [hround, Nat.cast_mul, Nat.cast_add_one, Int.add_mul, Int.one_mul]
    omega

theorem nearestNat_closest (m : Nat) {s : Int} (hs : Significant s) :
    ((nearestNat m : Int) - m).natAbs ≤ (s - m).natAbs := by
  have hclosest (q : Int) : ((nearestNat m : Int) - m).natAbs ≤ (q * spacing m - m).natAbs :=
    roundHalfEven_closest m (spacing_pos m) q
  obtain ⟨t, e, ht, hsize⟩ := hs
  by_cases hneg : s < 0
  · -- zero is closer than any negative number
    have hzero := hclosest 0
    omega
  have hs : s = (t * 2 ^ e : Nat) := by omega
  by_cases he : m.log2 - 52 ≤ e
  · have hmultiple : s = (t * 2 ^ (e - (m.log2 - 52)) : Nat) * (spacing m : Int) := by
      rw [hs, spacing, ← Nat.cast_mul, Nat.mul_assoc, ← Nat.pow_add, Nat.sub_add_cancel he]
    rw [hmultiple]
    exact hclosest _
  · -- a finer number lies below the power of two below `m`
    have hm : m ≠ 0 := by
      rintro rfl
      rw [Nat.log2_zero] at he
      omega
    have hlow := (log2_bounds hm).1
    have hfloor : 2 ^ 52 * spacing m = 2 ^ m.log2 := two_pow_mul_spacing 0 (by omega)
    have hbelow : t * 2 ^ e ≤ 2 ^ m.log2 := by
      calc t * 2 ^ e ≤ 2 ^ 53 * 2 ^ e := Nat.mul_le_mul_right _ ht.le
        _ = 2 ^ (53 + e) := (Nat.pow_add 2 53 e).symm
        _ ≤ 2 ^ m.log2 := Nat.pow_le_pow_right (by decide) (by omega)
    have hpower := hclosest (2 ^ 52 : Nat)
    rw [← Nat.cast_mul, hfloor] at hpower
    omega

theorem nearest_significant (i : Int) : Significant (nearest i) := by
  have hsize : (nearest i).natAbs = nearestNat i.natAbs := by
    unfold nearest
    split <;> omega
  unfold Significant
  rw [hsize]
  generalize i.natAbs = m
  by_cases hlog : m.log2 ≤ 52
  · refine ⟨m, 0, ?_, by rw [nearestNat_of_log2 hlog, Nat.pow_zero, Nat.mul_one]⟩
    by_cases hm : m = 0
    · rw [hm]
      decide
    · exact (Nat.log2_lt hm).1 (Nat.lt_succ_of_le hlog)
  · obtain ⟨-, hatMost⟩ := roundHalfEven_spacing (Nat.lt_of_not_le hlog)
    rcases Nat.lt_or_eq_of_le hatMost with hlt | heq
    · exact ⟨_, m.log2 - 52, hlt, rfl⟩
    · refine ⟨2 ^ 52, m.log2 - 51, by decide, ?_⟩
      rw [nearestNat, heq, spacing, ← Nat.pow_add, ← Nat.pow_add,
        show 53 + (m.log2 - 52) = 52 + (m.log2 - 51) by omega]

/-- No whole number of 53 significant bits is closer than the one that a whole number is rounded
to. -/
theorem nearest_closest (i : Int) {s : Int} (hs : Significant s) :
    (nearest i - i).natAbs ≤ (s - i).natAbs := by
  unfold nearest
  split
  · obtain ⟨m, e, hm, hsize⟩ := hs
    have hclosest := nearestNat_closest i.natAbs (s := -s) ⟨m, e, hm, by omega⟩
    omega
  · have hclosest := nearestNat_closest i.natAbs hs
    omega

end Runbook.Binary64
