import Mathlib.Data.List.TakeWhile
import Runbook.Number.Decimal
import Runbook.Proofs.Text.Trim

/-!
# Decimal text of numbers

What the readers of numbers give, and that they read a whole number back from its text.

* `readInt?_within` and `readFloat?_finite` say that what is read lies between the bounds, and is
  a finite double;
* `Binary64.bitsOfRatio_lt` says that a whole number of 64 bits is not too large for a double;
* `toList_toString` is the text of a whole number, a sign and digits, and `trim_toString` says that
  there are no blanks around it;
* `readInt?_toString` and `readFloat?_toString` read that text.
-/

namespace Runbook

/-! ## Finite doubles -/

namespace Binary64

/-- The bits are those of a finite double. -/
def Finite (x : Binary64) : Prop := x.bits < infinityBits

instance (x : Binary64) : Decidable x.Finite := inferInstanceAs (Decidable (_ < _))

variable {negative : Bool} {x : Binary64}

theorem ofRatio_finite {num den : Nat} (h : ofRatio negative num den = some x) : x.Finite := by
  unfold ofRatio at h
  dsimp only at h
  split at h
  · next hbits =>
    cases h
    exact hbits
  · cases h

theorem ofDecimal?_finite {digits : Nat} {exponent : Int}
    (h : ofDecimal? negative digits exponent = some x) : x.Finite := by
  have hzero : Finite ⟨negative, 0⟩ := Nat.succ_pos _
  unfold ofDecimal? at h
  split at h
  · exact Option.some.inj h ▸ hzero
  · dsimp only at h
    split at h
    · cases h
    · split at h
      · exact Option.some.inj h ▸ hzero
      · split at h <;> exact ofRatio_finite h

theorem roundHalfEven_le (num den : Nat) : roundHalfEven num den ≤ num / den + 1 := by
  unfold roundHalfEven
  dsimp only
  split
  · omega
  · split <;> omega

/-- The bits of a quotient, by the size of the quotient. -/
theorem bitsOfRatio_le (num den : Nat) :
    bitsOfRatio num den ≤ ((num * twoTo unitExponent / den).log2 - 52 + 2) * twoTo 52 := by
  unfold bitsOfRatio
  dsimp only
  generalize num * twoTo unitExponent = scaled
  generalize hshift : (scaled / den).log2 - 52 = shift
  -- the shift leaves 53 bits of the quotient
  have hkept : scaled / (den * twoTo shift) < twoTo 53 := by
    rw [← Nat.div_div_eq_div_mul]
    refine Nat.div_lt_of_lt_mul ?_
    calc scaled / den < 2 ^ ((scaled / den).log2 + 1) := Nat.lt_log2_self
      _ ≤ 2 ^ (shift + 53) := Nat.pow_le_pow_right (by decide) (by omega)
      _ = twoTo shift * twoTo 53 := Nat.pow_add 2 shift 53
  have hrounded : roundHalfEven scaled (den * twoTo shift) ≤ twoTo 53 :=
    Nat.le_trans (roundHalfEven_le _ _) hkept
  have hdouble : twoTo 53 = 2 * twoTo 52 := rfl
  rw [Nat.add_mul]
  omega

theorem bitsOfRatio_zero : bitsOfRatio 0 1 = 0 := by
  rw [bitsOfRatio, Nat.zero_mul]
  rfl

theorem log2_mul_twoTo_le {m bits : Nat} (hm : m < twoTo bits) (e : Nat) :
    (m * twoTo e).log2 ≤ bits + e := by
  by_cases hzero : m * twoTo e = 0
  · rw [hzero]
    exact Nat.zero_le _
  · refine Nat.le_of_lt ((Nat.log2_lt hzero).2 ?_)
    rw [Nat.pow_add]
    exact Nat.mul_lt_mul_of_pos_right hm (Nat.two_pow_pos e)

/-- A whole number below `2 ^ 64` is not too large for a double. -/
theorem bitsOfRatio_lt {m : Nat} (hm : m < twoTo 64) : bitsOfRatio m 1 < infinityBits := by
  have hsize : (m * twoTo unitExponent).log2 ≤ 1138 := log2_mul_twoTo_le hm unitExponent
  have hle := bitsOfRatio_le m 1
  rw [Nat.div_one] at hle
  generalize (m * twoTo unitExponent).log2 = size at hle hsize
  calc bitsOfRatio m 1 ≤ (size - 52 + 2) * twoTo 52 := hle
    _ ≤ 1088 * twoTo 52 := Nat.mul_le_mul_right _ (by omega)
    _ < infinityBits := by decide

/-- A whole number below `2 ^ 64`, as digits without an exponent. -/
theorem ofDecimal?_whole (negative : Bool) {m : Nat} (hm : m < twoTo 64) :
    ofDecimal? negative m 0 = some ⟨negative, bitsOfRatio m 1⟩ := by
  unfold ofDecimal?
  split
  · next hzero => rw [hzero, bitsOfRatio_zero]
  · next hzero =>
    have hlog : m.log2 < 64 := (Nat.log2_lt hzero).2 hm
    have hlarge : ¬ (m.log2 * 30103 / 100000 + 0 : Int) > 310 := by omega
    have hsmall : ¬ (m.log2 * 30103 / 100000 + 0 : Int) < -330 := by omega
    have hone : m * tenTo (Int.toNat 0) = m := Nat.mul_one m
    dsimp only
    rw [if_neg hlarge, if_neg hsmall, if_pos (Int.le_refl 0), hone, ofRatio]
    exact if_pos (bitsOfRatio_lt hm)

end Binary64

namespace Decimal

variable {low high i : Int} {cs : List Char}

/-! ## What the readers give -/

theorem readInt?_within (h : readInt? low high cs = some i) : low ≤ i ∧ i ≤ high := by
  have hkept (read : Option Int) (hread : (read.bind fun value =>
      if low ≤ value ∧ value ≤ high then some value else none) = some i) : low ≤ i ∧ i ≤ high := by
    obtain ⟨value, -, hvalue⟩ := Option.bind_eq_some_iff.1 hread
    split at hvalue
    · next hwithin => exact Option.some.inj hvalue ▸ hwithin
    · cases hvalue
  unfold readInt? at h
  dsimp only at h
  split at h
  · exact hkept _ h
  · split at h
    · exact hkept _ h
    · cases h
  · exact hkept _ h

theorem readUnsigned?_finite {negative : Bool} {x : Binary64}
    (h : readUnsigned? negative cs = some (.finite x)) : x.Finite := by
  unfold readUnsigned? at h
  dsimp only at h
  split at h
  · cases h
  · obtain ⟨exponent, -, hread⟩ := Option.bind_eq_some_iff.1 h
    split at hread
    · next y hy =>
      cases hread
      exact Binary64.ofDecimal?_finite hy
    · cases hread

/-- What follows the sign of a double. -/
def readBody? (negative : Bool) (body : List Char) : Option Reading :=
  if lowerAscii body = "inf".toList ∨ lowerAscii body = "infinity".toList then
    some (.infinite negative)
  else if lowerAscii body = "nan".toList then some .nan
  else readUnsigned? negative body

theorem readFloat?_minus (body : List Char) :
    readFloat? ('-' :: body) = readBody? true body := rfl

theorem readFloat?_plus (body : List Char) :
    readFloat? ('+' :: body) = readBody? false body := rfl

theorem readFloat?_plain (hminus : cs.head? ≠ some '-') (hplus : cs.head? ≠ some '+') :
    readFloat? cs = readBody? false cs := by
  unfold readFloat?
  split
  next heq =>
    split at heq
    · exact absurd rfl hminus
    · exact absurd rfl hplus
    · cases heq
      rfl

theorem readBody?_finite {negative : Bool} {x : Binary64}
    (h : readBody? negative cs = some (.finite x)) : x.Finite := by
  unfold readBody? at h
  split at h
  · cases h
  · split at h
    · cases h
    · exact readUnsigned?_finite h

theorem readFloat?_finite {x : Binary64} (h : readFloat? cs = some (.finite x)) : x.Finite := by
  by_cases hminus : cs.head? = some '-'
  · obtain ⟨body, rfl⟩ := List.head?_eq_some_iff.1 hminus
    exact readBody?_finite (readFloat?_minus body ▸ h)
  · by_cases hplus : cs.head? = some '+'
    · obtain ⟨body, rfl⟩ := List.head?_eq_some_iff.1 hplus
      exact readBody?_finite (readFloat?_plus body ▸ h)
    · exact readBody?_finite (readFloat?_plain hminus hplus ▸ h)

/-! ## Digits -/

theorem digit_range {c : Char} (h : c.isDigit = true) : '0' ≤ c ∧ c ≤ '9' := by
  unfold Char.isDigit at h
  obtain ⟨hlow, hhigh⟩ := Bool.and_eq_true_iff.1 h
  exact ⟨of_decide_eq_true hlow, of_decide_eq_true hhigh⟩

theorem digitValue?_eq {c : Char} (h : c.isDigit = true) :
    digitValue? c = some (c.toNat - '0'.toNat) := if_pos (digit_range h)

theorem digitValueIn?_eq {c : Char} (h : c.isDigit = true) :
    digitValueIn? 10 c = some (c.toNat - '0'.toNat) := by
  have hten : c.toNat - '0'.toNat < 10 := by
    have hle : c.toNat ≤ '9'.toNat := (digit_range h).2
    have hnine : '9'.toNat = 57 := rfl
    have hnought : '0'.toNat = 48 := rfl
    omega
  unfold digitValueIn?
  dsimp only
  rw [if_pos (digit_range h), if_pos hten]

theorem isDigit_eq {c : Char} (h : c.isDigit = true) : isDigit c = true := by
  rw [isDigit, digitValue?_eq h]
  rfl

theorem toLower_digit {c : Char} (h : c.isDigit = true) : c.toLower = c := by
  unfold Char.toLower
  refine dif_neg fun hupper => ?_
  have hle : 'A' ≤ '9' := Char.le_trans hupper.1 (digit_range h).2
  exact absurd hle (by decide)

theorem foldl_digits (h : ∀ c ∈ cs, c.isDigit = true) (n : Nat) :
    cs.foldl (fun acc c => do return (← acc) * 10 + (← digitValueIn? 10 c)) (some n) =
      some (Nat.ofDigitChars 10 cs n) := by
  induction cs generalizing n with
  | nil => rfl
  | cons c rest ih =>
    obtain ⟨hc, hrest⟩ := List.forall_mem_cons.1 h
    rw [List.foldl_cons, digitValueIn?_eq hc, Nat.ofDigitChars_cons, Nat.mul_comm]
    exact ih hrest _

theorem natOfDigits_eq (h : ∀ c ∈ cs, c.isDigit = true) :
    natOfDigits cs = Nat.ofDigitChars 10 cs 0 := by
  unfold natOfDigits
  suffices hfrom : ∀ n, cs.foldl (fun n c => n * 10 + (digitValue? c).getD 0) n =
      Nat.ofDigitChars 10 cs n from hfrom 0
  induction cs with
  | nil => exact fun _ => rfl
  | cons c rest ih =>
    obtain ⟨hc, hrest⟩ := List.forall_mem_cons.1 h
    intro n
    rw [List.foldl_cons, digitValue?_eq hc, Nat.ofDigitChars_cons, Nat.mul_comm]
    exact ih hrest _

/-! ## The text of a whole number -/

/-- The sign before the digits of a whole number. -/
def signOf (i : Int) : List Char := if i < 0 then ['-'] else []

theorem toList_toString (i : Int) : (toString i).toList = signOf i ++ Nat.toDigits 10 i.natAbs := by
  rw [Int.toString_eq_repr, Int.repr_eq_if, signOf]
  by_cases hi : 0 ≤ i
  · have hsize : i.toNat = i.natAbs := by omega
    rw [if_pos hi, if_neg (Int.not_lt.2 hi), Nat.toList_repr, hsize, List.nil_append]
  · have hsize : (-i).toNat = i.natAbs := by omega
    rw [if_neg hi, if_pos (Int.not_le.1 hi), String.toList_append, Nat.toList_repr, hsize]
    rfl

variable (m : Nat)

theorem toDigits_isDigit : ∀ c ∈ Nat.toDigits 10 m, c.isDigit = true := fun _ =>
  Nat.isDigit_of_mem_toDigits (by decide) (by decide)

theorem natOfDigits_toDigits : natOfDigits (Nat.toDigits 10 m) = m := by
  rw [natOfDigits_eq (toDigits_isDigit m)]
  exact Nat.ofDigitChars_toDigits (by decide) (by decide)

theorem readNat?_toDigits : readNat? (Nat.toDigits 10 m) = some m := by
  rw [readNat?, readNatIn?, if_neg (by simp),
    foldl_digits (toDigits_isDigit m)]
  exact congrArg some (Nat.ofDigitChars_toDigits (by decide) (by decide))

/-- Digits have a digit in front, and so no sign. -/
theorem toDigits_head {c : Char} (hc : c.isDigit = false) :
    (Nat.toDigits 10 m).head? ≠ some c := fun hhead => by
  rw [toDigits_isDigit m c (List.mem_of_mem_head? hhead)] at hc
  cases hc

/-- In the text of a whole number there are digits and a sign only. -/
theorem mem_toString {c : Char} (hc : c ∈ (toString i).toList) : c.isDigit = true ∨ c = '-' := by
  rw [toList_toString, signOf, List.mem_append] at hc
  rcases hc with hsign | hdigits
  · split at hsign
    · exact .inr (List.mem_singleton.1 hsign)
    · cases hsign
  · exact .inl (toDigits_isDigit _ c hdigits)

theorem isBlank_numeral {c : Char} (hc : c.isDigit = true ∨ c = '-') : isBlank c = false := by
  rcases hc with hdigit | rfl
  · have hlow : 48 ≤ c.toNat := (digit_range hdigit).1
    have hhigh : c.toNat ≤ 57 := (digit_range hdigit).2
    exact isBlank_of_visible (by omega) (by omega)
  · decide

theorem trim_toString (i : Int) : trim (toString i).toList = (toString i).toList :=
  trim_of_tight (tight_of_forall fun _ hc => isBlank_numeral (mem_toString hc))

/-! ## Reading it back -/

/-- A whole number between the bounds is read back from its text. -/
theorem readInt?_toString (hlow : low < 0) (i : Int) :
    readInt? low high (toString i).toList = if low ≤ i ∧ i ≤ high then some i else none := by
  rw [toList_toString, signOf]
  by_cases hi : i < 0
  · have hsize : -(i.natAbs : Int) = i := by omega
    rw [if_pos hi, List.singleton_append]
    simp only [readInt?, if_pos hlow, readNat?_toDigits]
    exact congrArg (fun value => if low ≤ value ∧ value ≤ high then some value else none) hsize
  · have hsize : (i.natAbs : Int) = i := by omega
    rw [if_neg hi, List.nil_append]
    unfold readInt?
    dsimp only
    split
    · next heq => exact absurd (congrArg List.head? heq) (toDigits_head _ (by decide))
    · next heq => exact absurd (congrArg List.head? heq) (toDigits_head _ (by decide))
    · rw [readNat?_toDigits]
      exact congrArg (fun value => if low ≤ value ∧ value ≤ high then some value else none) hsize

/-- Digits are no word that begins otherwise. -/
theorem lowerAscii_toDigits {word : List Char} {c : Char} (hword : word.head? = some c)
    (hc : c.isDigit = false) : lowerAscii (Nat.toDigits 10 m) ≠ word := by
  rintro rfl
  rw [lowerAscii, List.head?_map, Option.map_eq_some_iff] at hword
  obtain ⟨d, hhead, rfl⟩ := hword
  have hd : d.isDigit = true := toDigits_isDigit m d (List.mem_of_mem_head? hhead)
  rw [toLower_digit hd, hd] at hc
  cases hc

theorem splitMantissa_toDigits :
    splitMantissa (Nat.toDigits 10 m) = (Nat.toDigits 10 m, [], []) := by
  have hdigits : ∀ c ∈ Nat.toDigits 10 m, isDigit c = true :=
    fun c hc => isDigit_eq (toDigits_isDigit m c hc)
  unfold splitMantissa
  dsimp only
  rw [List.takeWhile_eq_self_iff.2 hdigits, List.dropWhile_eq_nil_iff.2 hdigits]

variable {m}

theorem readUnsigned?_toDigits (negative : Bool) (hm : m < twoTo 64) :
    readUnsigned? negative (Nat.toDigits 10 m) =
      some (.finite ⟨negative, Binary64.bitsOfRatio m 1⟩) := by
  simp [readUnsigned?, splitMantissa_toDigits, natOfDigits_toDigits, readExponent?,
    Binary64.ofDecimal?_whole negative hm]

theorem readBody?_toDigits (negative : Bool) (hm : m < twoTo 64) :
    readBody? negative (Nat.toDigits 10 m) =
      some (.finite ⟨negative, Binary64.bitsOfRatio m 1⟩) := by
  have hinf : lowerAscii (Nat.toDigits 10 m) ≠ "inf".toList :=
    lowerAscii_toDigits m rfl (by decide)
  have hinfinity : lowerAscii (Nat.toDigits 10 m) ≠ "infinity".toList :=
    lowerAscii_toDigits m rfl (by decide)
  have hnan : lowerAscii (Nat.toDigits 10 m) ≠ "nan".toList :=
    lowerAscii_toDigits m rfl (by decide)
  rw [readBody?, if_neg (not_or.2 ⟨hinf, hinfinity⟩), if_neg hnan]
  exact readUnsigned?_toDigits negative hm

/-- A whole number of 64 bits is read from its text as the nearest double. -/
theorem readFloat?_toString {i : Int} (hi : i.natAbs < twoTo 64) :
    readFloat? (toString i).toList = some (.finite (Binary64.ofInt i)) := by
  rw [toList_toString, signOf, Binary64.ofInt]
  by_cases hneg : i < 0
  · rw [if_pos hneg, decide_eq_true hneg, List.singleton_append, readFloat?_minus]
    exact readBody?_toDigits true hi
  · rw [if_neg hneg, decide_eq_false hneg, List.nil_append,
      readFloat?_plain (toDigits_head _ (by decide)) (toDigits_head _ (by decide))]
    exact readBody?_toDigits false hi

end Decimal

end Runbook
