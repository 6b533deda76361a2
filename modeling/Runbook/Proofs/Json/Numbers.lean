import Runbook.Json.Printer
import Runbook.Json.Reader
import Runbook.Proofs.Number.Decimal
import Runbook.Proofs.Shared.Conforming

/-!
# Numbers in JSON text

The reader of a number knows by itself where the number ends: what stands behind it is left alone,
as long as it could not go on with the number.

* `Separates` says that a text cannot go on with a number that it stands behind;
* `Stops` says of a reader that it leaves an end of the text, and leaves more when more stands
  behind; `stops_number` says so of the reader of numbers;
* `NumberText` are the texts that are one number, and `NumberText.valueWith` reads one before anything
  that separates;
* `numberText_int` says that the text of a whole number is one, and `numberText_of_value` that the
  text of any number is one if it reads back by itself.
-/

namespace Runbook.Json

open Decimal (isDigit digitValue?)

/-! ## Where a number ends -/

/-- The text does not go on with a number that it stands behind. -/
def Separates (after : List Char) : Prop :=
  ∀ c ∈ after.head?, isDigit c = false ∧ c ≠ '.' ∧ c ≠ 'e' ∧ c ≠ 'E'

theorem separates_nil : Separates [] := by
  rintro c ⟨⟩

/-- What a reader leaves is an end of the text, and it leaves more when more stands behind. -/
structure Stops {α : Type} (read : List Char → Except Fault (α × List Char)) : Prop where
  /-- What is left is an end of the text. -/
  suffix : ∀ {cs rest : List Char} {a : α}, read cs = .ok (a, rest) → rest <:+ cs
  /-- More behind the text is left with the rest. -/
  append : ∀ {cs rest after : List Char} {a : α}, Separates after → read cs = .ok (a, rest) →
    read (cs ++ after) = .ok (a, rest ++ after)

section Digits

variable {cs after : List Char}

theorem Separates.takeWhile (h : Separates after) (cs : List Char) :
    (cs ++ after).takeWhile isDigit = cs.takeWhile isDigit := by
  have hafter : after.takeWhile isDigit = [] := by
    cases after with
    | nil => rfl
    | cons c rest => rw [List.takeWhile_cons, (h c rfl).1, if_neg Bool.false_ne_true]
  rw [List.takeWhile_append, hafter, List.append_nil]
  split
  · next hall => exact (List.takeWhile_eq_self_iff.2 fun c hc => (List.takeWhile_eq_self_iff.1
      ((List.takeWhile_prefix _).eq_of_length hall)) c hc).symm
  · rfl

theorem Separates.dropWhile (h : Separates after) (cs : List Char) :
    (cs ++ after).dropWhile isDigit = cs.dropWhile isDigit ++ after := by
  have hafter : after.dropWhile isDigit = after := by
    cases after with
    | nil => rfl
    | cons c rest => rw [List.dropWhile_cons, (h c rfl).1, if_neg Bool.false_ne_true]
  rw [List.dropWhile_append, hafter]
  split
  · next hempty => rw [List.isEmpty_iff.1 hempty, List.nil_append]
  · rfl

theorem wordDigits_suffix (n count : Nat) (cs : List Char) : (wordDigits n count cs).2.2 <:+ cs := by
  induction cs generalizing n count with
  | nil => exact List.suffix_refl _
  | cons c rest ih =>
    unfold wordDigits
    split
    · exact List.suffix_refl _
    · split
      · exact (ih _ _).trans (List.suffix_cons c rest)
      · exact List.suffix_refl _

/-- Digits are taken alike whatever stands behind. -/
theorem wordDigits_append (h : Separates after) (n count : Nat) (cs : List Char) :
    wordDigits n count (cs ++ after) =
      ((wordDigits n count cs).1, (wordDigits n count cs).2.1,
        (wordDigits n count cs).2.2 ++ after) := by
  induction cs generalizing n count with
  | nil =>
    cases after with
    | nil => rfl
    | cons c rest =>
      have hc : digitValue? c = none := by
        simpa [isDigit] using (h c rfl).1
      have hstop : wordDigits n count (c :: rest) = (n, count, c :: rest) := by
        rw [wordDigits, hc]
      exact hstop
  | cons c rest ih =>
    rw [List.cons_append, wordDigits, wordDigits]
    cases digitValue? c with
    | none => rfl
    | some d =>
      dsimp only
      split
      · exact ih _ _
      · rfl

end Digits

/-! ## The readers of a number -/

section Readers

variable {negative down : Bool} {n : Nat} {start exponent : Int} {a : Number}
  {cs rest after : List Char}

theorem finish_eq_ok :
    finish negative n exponent cs = .ok (a, rest) ↔
      (scale negative n exponent).map .float = some a ∧ rest = cs := by
  unfold finish
  cases scale negative n exponent with
  | none => simp [fail]
  | some x =>
    constructor
    · rintro ⟨⟩
      exact ⟨rfl, rfl⟩
    · rintro ⟨⟨⟩, rfl⟩
      rfl

theorem stops_finish (negative : Bool) (n : Nat) (exponent : Int) :
    Stops (finish negative n exponent) where
  suffix h := (finish_eq_ok.1 h).2 ▸ List.suffix_refl _
  append _ h := finish_eq_ok.2 ⟨(finish_eq_ok.1 h).1, (finish_eq_ok.1 h).2 ▸ rfl⟩

/-- Whether a text begins with a digit. -/
def startsWithDigit (cs : List Char) : Bool := cs.head?.any isDigit

theorem startsWithDigit_append (h : startsWithDigit cs = true) (after : List Char) :
    startsWithDigit (cs ++ after) = true := by
  cases cs with
  | nil => cases h
  | cons c rest => exact h

/-- The sign of an exponent and what follows it. -/
def exponentSign : List Char → Bool × List Char
  | '+' :: rest => (false, rest)
  | '-' :: rest => (true, rest)
  | cs => (false, cs)

theorem exponentSign_suffix (cs : List Char) : (exponentSign cs).2 <:+ cs := by
  unfold exponentSign
  split
  · exact List.suffix_cons _ _
  · exact List.suffix_cons _ _
  · exact List.suffix_refl _

theorem exponentSign_append (h : startsWithDigit (exponentSign cs).2 = true) (after : List Char) :
    exponentSign (cs ++ after) = ((exponentSign cs).1, (exponentSign cs).2 ++ after) := by
  cases cs with
  | nil => cases h
  | cons c rest =>
    by_cases hplus : c = '+'
    · subst hplus
      rfl
    · by_cases hminus : c = '-'
      · subst hminus
        rfl
      · simp [exponentSign, hplus, hminus]

/-- The number with the exponent that some digits stand for. -/
def withExponent (negative : Bool) (n : Nat) (start : Int) (down : Bool) (digits : List Char) :
    Option Number :=
  let e := Decimal.natOfDigits digits
  if e ≤ maxExponent then
    (scale negative n (if down then start - e else start + e)).map .float
  else if n ≠ 0 ∧ !down then none
  else some (.float ⟨negative, 0⟩)

/-- An exponent is read if digits follow its sign. -/
theorem exponentPart_eq_ok :
    exponentPart negative n start cs = .ok (a, rest) ↔
      startsWithDigit (exponentSign cs).2 = true ∧
        withExponent negative n start (exponentSign cs).1
          ((exponentSign cs).2.takeWhile isDigit) = some a ∧
        rest = (exponentSign cs).2.dropWhile isDigit := by
  unfold exponentPart
  split
  next down digits hmatch =>
  have hsign : exponentSign cs = (down, digits) := by
    unfold exponentSign
    split <;> simp_all
  rw [hsign]
  cases digits with
  | nil =>
    constructor
    · rintro ⟨⟩
    · rintro ⟨⟨⟩, -⟩
  | cons c more =>
    dsimp only
    by_cases hc : isDigit c = true
    · rw [hc]
      have hhead : startsWithDigit (c :: more) = true := hc
      rw [Bool.not_true, if_neg Bool.false_ne_true, hhead, withExponent]
      split
      · rw [finish_eq_ok]
        exact (and_iff_right rfl).symm
      · split
        · constructor
          · rintro ⟨⟩
          · rintro ⟨-, ⟨⟩, -⟩
        · constructor
          · rintro ⟨⟩
            exact ⟨rfl, rfl, rfl⟩
          · rintro ⟨-, ⟨⟩, rfl⟩
            rfl
    · rw [Bool.eq_false_iff.2 hc]
      constructor
      · rintro ⟨⟩
      · exact fun h => absurd h.1 hc

theorem stops_exponentPart (negative : Bool) (n : Nat) (start : Int) :
    Stops (exponentPart negative n start) := by
  constructor
  · intro cs rest a h
    obtain ⟨-, -, rfl⟩ := exponentPart_eq_ok.1 h
    exact (List.dropWhile_suffix _).trans (exponentSign_suffix cs)
  · intro cs rest after a hafter h
    obtain ⟨hstarts, ha, rfl⟩ := exponentPart_eq_ok.1 h
    refine exponentPart_eq_ok.2 ?_
    rw [exponentSign_append hstarts, hafter.takeWhile, hafter.dropWhile]
    exact ⟨startsWithDigit_append hstarts after, ha, rfl⟩

/-- What begins with the letter of an exponent. -/
theorem afterDigits_letter {c : Char} (hc : c = 'e' ∨ c = 'E') :
    afterDigits negative n exponent (c :: cs) = exponentPart negative n exponent cs := by
  rcases hc with rfl | rfl <;> rfl

/-- What does not. -/
theorem afterDigits_other (h : ∀ c ∈ cs.head?, c ≠ 'e' ∧ c ≠ 'E') :
    afterDigits negative n exponent cs = finish negative n exponent cs := by
  unfold afterDigits
  split
  · exact absurd rfl (h _ rfl).1
  · exact absurd rfl (h _ rfl).2
  · rfl

theorem stops_afterDigits (negative : Bool) (n : Nat) (exponent : Int) :
    Stops (afterDigits negative n exponent) := by
  constructor
  · intro cs rest a h
    unfold afterDigits at h
    split at h
    · exact ((stops_exponentPart _ _ _).suffix h).trans (List.suffix_cons _ _)
    · exact ((stops_exponentPart _ _ _).suffix h).trans (List.suffix_cons _ _)
    · exact (stops_finish _ _ _).suffix h
  · intro cs rest after a hafter h
    by_cases hletter : ∃ c more, cs = c :: more ∧ (c = 'e' ∨ c = 'E')
    · obtain ⟨c, more, rfl, hc⟩ := hletter
      rw [afterDigits_letter hc] at h
      rw [List.cons_append, afterDigits_letter hc]
      exact (stops_exponentPart _ _ _).append hafter h
    · have hcs : ∀ c ∈ cs.head?, c ≠ 'e' ∧ c ≠ 'E' := by
        intro c hc
        obtain ⟨more, rfl⟩ := List.head?_eq_some_iff.1 hc
        exact ⟨fun he => hletter ⟨c, more, rfl, .inl he⟩, fun he => hletter ⟨c, more, rfl, .inr he⟩⟩
      have hall : ∀ c ∈ (cs ++ after).head?, c ≠ 'e' ∧ c ≠ 'E' := by
        intro c hc
        cases cs with
        | nil => exact (hafter c hc).2.2
        | cons d more => exact hcs c hc
      rw [afterDigits_other hcs] at h
      rw [afterDigits_other hall]
      exact (stops_finish _ _ _).append hafter h

theorem fractionPart_eq (h : startsWithDigit cs = true) :
    fractionPart negative n start cs =
      afterDigits negative (wordDigits n 0 cs).1 (start - (wordDigits n 0 cs).2.1)
        ((wordDigits n 0 cs).2.2.dropWhile isDigit) := by
  cases cs with
  | nil => cases h
  | cons c more =>
    have hc : isDigit c = true := h
    rw [fractionPart, hc]
    rfl

theorem startsWithDigit_of_fractionPart (h : fractionPart negative n start cs = .ok (a, rest)) :
    startsWithDigit cs = true := by
  cases cs with
  | nil => cases h
  | cons c more =>
    by_cases hc : isDigit c = true
    · exact hc
    · rw [fractionPart, Bool.eq_false_iff.2 hc] at h
      cases h

theorem stops_fractionPart (negative : Bool) (n : Nat) (start : Int) :
    Stops (fractionPart negative n start) := by
  constructor
  · intro cs rest a h
    rw [fractionPart_eq (startsWithDigit_of_fractionPart h)] at h
    exact ((stops_afterDigits _ _ _).suffix h).trans
      ((List.dropWhile_suffix _).trans (wordDigits_suffix _ _ _))
  · intro cs rest after a hafter h
    have hstarts := startsWithDigit_of_fractionPart h
    rw [fractionPart_eq hstarts] at h
    rw [fractionPart_eq (startsWithDigit_append hstarts after), wordDigits_append hafter,
      hafter.dropWhile]
    exact (stops_afterDigits _ _ _).append hafter h

/-- The number of a sign and digits without a point or an exponent. -/
def wholeNumber (negative : Bool) (n : Nat) : Number :=
  if !negative then .int n
  else if n = 0 ∨ twoTo 63 < n then .float ⟨true, Binary64.bitsOfRatio n 1⟩
  else .int (-(n : Int))

theorem whole_eq (negative : Bool) (n : Nat) (cs : List Char) :
    number.whole negative n cs = .ok (wholeNumber negative n, cs) := by
  unfold number.whole wholeNumber
  split
  · rfl
  · split <;> rfl

theorem stops_whole (negative : Bool) (n : Nat) : Stops (number.whole negative n) := by
  constructor
  · intro cs rest a h
    rw [whole_eq] at h
    cases h
    exact List.suffix_refl _
  · intro cs rest after a _ h
    rw [whole_eq] at h
    cases h
    exact whole_eq _ _ _

/-- Continues after all digits of a number that is too large for a word. -/
def beyondWord (negative : Bool) (n : Nat) (dropped : Int) :
    List Char → Except Fault (Number × List Char)
  | '.' :: rest => fractionPart negative n dropped rest
  | rest => afterDigits negative n dropped rest

/-- Continues after the digits that fit a word. -/
def afterWord (negative : Bool) (n : Nat) (rest : List Char) : Except Fault (Number × List Char) :=
  match rest with
  | '.' :: rest => fractionPart negative n 0 rest
  | 'e' :: rest | 'E' :: rest => exponentPart negative n 0 rest
  | d :: _ =>
    if isDigit d then
      beyondWord negative n (rest.takeWhile isDigit).length (rest.dropWhile isDigit)
    else number.whole negative n rest
  | [] => number.whole negative n []

/-- Whether a text begins like a number: with a digit, and with a zero only if no other follows. -/
def startsNumber : List Char → Bool
  | [] => false
  | c :: rest => isDigit c && !(c == '0' && startsWithDigit rest)

theorem beyondWord_other {dropped : Int} (h : ∀ c ∈ cs.head?, c ≠ '.') :
    beyondWord negative n dropped cs = afterDigits negative n dropped cs := by
  unfold beyondWord
  split
  · exact absurd rfl (h _ rfl)
  · rfl

theorem stops_beyondWord (negative : Bool) (n : Nat) (dropped : Int) :
    Stops (beyondWord negative n dropped) := by
  constructor
  · intro cs rest a h
    unfold beyondWord at h
    split at h
    · exact ((stops_fractionPart _ _ _).suffix h).trans (List.suffix_cons _ _)
    · exact (stops_afterDigits _ _ _).suffix h
  · intro cs rest after a hafter h
    by_cases hpoint : cs.head? = some '.'
    · obtain ⟨more, rfl⟩ := List.head?_eq_some_iff.1 hpoint
      exact (stops_fractionPart negative n dropped).append hafter h
    · have hcs : ∀ c ∈ cs.head?, c ≠ '.' := fun c hc heq => hpoint (heq ▸ hc)
      have hall : ∀ c ∈ (cs ++ after).head?, c ≠ '.' := by
        intro c hc
        cases cs with
        | nil => exact (hafter c hc).2.1
        | cons d more => exact hcs c hc
      rw [beyondWord_other hcs] at h
      rw [beyondWord_other hall]
      exact (stops_afterDigits _ _ _).append hafter h

/-- What is neither a digit nor goes on with a number ends a whole number. -/
theorem afterWord_separates (h : Separates cs) :
    afterWord negative n cs = number.whole negative n cs := by
  cases cs with
  | nil => rfl
  | cons c rest =>
    obtain ⟨hdigit, hpoint, hlower, hupper⟩ := h c rfl
    simp [afterWord, hdigit]

theorem afterWord_digit {c : Char} (hc : isDigit c = true) (rest : List Char) :
    afterWord negative n (c :: rest) =
      beyondWord negative n ((c :: rest).takeWhile isDigit).length
        ((c :: rest).dropWhile isDigit) := by
  have hpoint : c ≠ '.' := by rintro rfl; cases hc
  have hlower : c ≠ 'e' := by rintro rfl; cases hc
  have hupper : c ≠ 'E' := by rintro rfl; cases hc
  simp [afterWord, hc]

theorem stops_afterWord (negative : Bool) (n : Nat) : Stops (afterWord negative n) := by
  constructor
  · intro cs rest a h
    unfold afterWord at h
    split at h
    · exact ((stops_fractionPart _ _ _).suffix h).trans (List.suffix_cons _ _)
    · exact ((stops_exponentPart _ _ _).suffix h).trans (List.suffix_cons _ _)
    · exact ((stops_exponentPart _ _ _).suffix h).trans (List.suffix_cons _ _)
    · split at h
      · exact ((stops_beyondWord _ _ _).suffix h).trans (List.dropWhile_suffix _)
      · exact (stops_whole _ _).suffix h
    · exact (stops_whole _ _).suffix h
  · intro cs rest after a hafter h
    cases cs with
    | nil =>
      rw [List.nil_append, afterWord_separates hafter]
      exact (stops_whole negative n).append hafter h
    | cons c more =>
      by_cases hdigit : isDigit c = true
      · rw [afterWord_digit hdigit] at h
        rw [List.cons_append, afterWord_digit hdigit, ← List.cons_append, hafter.takeWhile,
          hafter.dropWhile]
        exact (stops_beyondWord _ _ _).append hafter h
      · by_cases hpoint : c = '.'
        · subst hpoint
          exact (stops_fractionPart negative n 0).append hafter h
        · by_cases hletter : c = 'e' ∨ c = 'E'
          · have hpart : ∀ cs, afterWord negative n (c :: cs) = exponentPart negative n 0 cs := by
              rcases hletter with rfl | rfl <;> exact fun _ => rfl
            rw [hpart] at h
            rw [List.cons_append, hpart]
            exact (stops_exponentPart _ _ _).append hafter h
          · obtain ⟨hlower, hupper⟩ := not_or.1 hletter
            have hends : ∀ cs, Separates (c :: cs) := by
              rintro cs d ⟨⟩
              exact ⟨Bool.eq_false_iff.2 hdigit, hpoint, hlower, hupper⟩
            rw [afterWord_separates (hends more)] at h
            rw [List.cons_append, afterWord_separates (hends _), ← List.cons_append]
            exact (stops_whole _ _).append hafter h

theorem startsNumber_append (h : startsNumber cs = true) (hafter : Separates after) :
    startsNumber (cs ++ after) = true := by
  cases cs with
  | nil => cases h
  | cons c rest =>
    cases rest with
    | nil =>
      have hnone : startsWithDigit after = false := by
        cases after with
        | nil => rfl
        | cons d more => exact (hafter d rfl).1
      have hc : isDigit c = true := (Bool.and_eq_true_iff.1 h).1
      rw [List.singleton_append, startsNumber, hc, hnone, Bool.and_false]
      rfl
    | cons d more => exact h

theorem number_eq (negative : Bool) (h : startsNumber cs = true) :
    number negative cs = afterWord negative (wordDigits 0 0 cs).1 (wordDigits 0 0 cs).2.2 := by
  cases cs with
  | nil => cases h
  | cons c more =>
    obtain ⟨hc, hzero⟩ := Bool.and_eq_true_iff.1 h
    have hfirst : ¬ (c = '0' ∧ (more.head?.map isDigit).getD false = true) := by
      rintro ⟨rfl, hmore⟩
      cases more with
      | nil => cases hmore
      | cons d rest =>
        have hd : startsWithDigit (d :: rest) = true := hmore
        rw [hd] at hzero
        cases hzero
    unfold number
    dsimp only
    rw [hc, Bool.not_true, if_neg Bool.false_ne_true, if_neg hfirst]
    rfl

theorem startsNumber_of_number (h : number negative cs = .ok (a, rest)) :
    startsNumber cs = true := by
  cases cs with
  | nil => cases h
  | cons c more =>
    unfold number at h
    dsimp only at h
    split at h
    · cases h
    · next hc =>
      split at h
      · cases h
      · next hfirst =>
        have hdigit : isDigit c = true := by simpa using hc
        rw [startsNumber, hdigit, Bool.true_and, Bool.not_eq_true', Bool.and_eq_false_iff]
        by_cases hzero : c = '0'
        · refine .inr (Bool.eq_false_iff.2 fun hmore => hfirst ⟨hzero, ?_⟩)
          cases more with
          | nil => cases hmore
          | cons d rest => exact hmore
        · exact .inl (beq_eq_false_iff_ne.2 hzero)

/-- The reader of numbers leaves alone what stands behind a number. -/
theorem stops_number (negative : Bool) : Stops (number negative) := by
  constructor
  · intro cs rest a h
    rw [number_eq _ (startsNumber_of_number h)] at h
    exact ((stops_afterWord _ _).suffix h).trans (wordDigits_suffix _ _ _)
  · intro cs rest after a hafter h
    have hstarts := startsNumber_of_number h
    rw [number_eq _ hstarts] at h
    rw [number_eq _ (startsNumber_append hstarts hafter), wordDigits_append hafter]
    exact (stops_afterWord _ _).append hafter h

end Readers

/-! ## Texts that are one number -/

/-- The text is one number, which is read in full. -/
inductive NumberText : List Char → Number → Prop where
  /-- A sign and what stands behind it. -/
  | minus {cs : List Char} {n : Number} (h : number true cs = .ok (n, [])) :
    NumberText ('-' :: cs) n
  /-- No sign. -/
  | plain {cs : List Char} {n : Number} (h : number false cs = .ok (n, [])) : NumberText cs n

section Whole

variable {m : Nat}

/-- Digits whose number fits a word are all taken. -/
theorem wordDigits_digits {cs : List Char} (h : ∀ c ∈ cs, c.isDigit = true) (n count : Nat)
    (hfits : Nat.ofDigitChars 10 cs n ≤ maxWord) :
    wordDigits n count cs = (Nat.ofDigitChars 10 cs n, count + cs.length, []) := by
  induction cs generalizing n count with
  | nil => rfl
  | cons c rest ih =>
    obtain ⟨hc, hrest⟩ := List.forall_mem_cons.1 h
    rw [Nat.ofDigitChars_cons] at hfits ⊢
    generalize hnext : 10 * n + (c.toNat - '0'.toNat) = next at hfits ⊢
    have hword : next ≤ maxWord := by
      have hlarger : next ≤ 10 ^ rest.length * next := Nat.le_mul_of_pos_left _ (Nat.pow_pos (by decide))
      rw [Nat.ofDigitChars_eq_ofDigitChars_zero] at hfits
      omega
    have hstep : n * 10 + (c.toNat - '0'.toNat) = next := by omega
    rw [wordDigits, Decimal.digitValue?_eq hc]
    dsimp only
    rw [hstep, if_pos hword, ih hrest _ _ hfits, List.length_cons, Nat.add_assoc,
      Nat.add_comm 1]

/-- The digits of a number other than zero do not begin with a zero. -/
theorem head?_toDigits (hm : m ≠ 0) : (Nat.toDigits 10 m).head? ≠ some '0' := by
  induction m using Nat.strongRecOn with
  | ind m ih =>
    by_cases hsmall : m < 10
    · rw [Nat.toDigits_of_lt_base hsmall, List.head?_cons]
      intro hzero
      exact hm (Nat.digitChar_eq_zero.1 (Option.some.inj hzero))
    · have hbase : 10 ≤ m := Nat.le_of_not_lt hsmall
      rw [Nat.toDigits_of_base_le (by decide) hbase, List.head?_append]
      intro hzero
      rcases Option.or_eq_some_iff.1 hzero with hfront | ⟨hnone, -⟩
      · exact ih (m / 10) (by omega) (by omega) hfront
      · exact Nat.toDigits_ne_nil (List.head?_eq_none_iff.1 hnone)

theorem startsNumber_toDigits (m : Nat) : startsNumber (Nat.toDigits 10 m) = true := by
  by_cases hm : m = 0
  · rw [hm]
    rfl
  · have hhead := head?_toDigits hm
    have hdigit := Decimal.toDigits_isDigit m
    cases hdigits : Nat.toDigits 10 m with
    | nil => exact absurd hdigits Nat.toDigits_ne_nil
    | cons c rest =>
      rw [hdigits] at hhead hdigit
      have hc : (c == '0') = false := beq_eq_false_iff_ne.2 fun h => hhead (congrArg some h)
      rw [startsNumber, Decimal.isDigit_eq (hdigit c List.mem_cons_self), hc]
      rfl

/-- The digits of a word are read in full. -/
theorem number_toDigits (negative : Bool) (hm : m ≤ maxWord) :
    number negative (Nat.toDigits 10 m) = .ok (wholeNumber negative m, []) := by
  have hword : wordDigits 0 0 (Nat.toDigits 10 m) = (m, 0 + (Nat.toDigits 10 m).length, []) := by
    rw [wordDigits_digits (Decimal.toDigits_isDigit m), Nat.ofDigitChars_ten_toDigits]
    rwa [Nat.ofDigitChars_ten_toDigits]
  rw [number_eq negative (startsNumber_toDigits m), hword]
  exact whole_eq negative m []

/-- The text of a whole number of 64 bits is that number. -/
theorem numberText_int {i : Int} (h : (Number.int i).Valid) :
    NumberText (toString i).toList (.int i) := by
  obtain ⟨hlow, hhigh⟩ := h
  have hwide : twoTo 63 < twoTo 64 := by decide
  have hword : i.natAbs ≤ maxWord := by
    unfold maxWord
    omega
  rw [Decimal.toList_toString, Decimal.signOf]
  by_cases hi : i < 0
  · rw [if_pos hi, List.singleton_append]
    refine .minus ?_
    have hsmall : ¬ (i.natAbs = 0 ∨ twoTo 63 < i.natAbs) := by omega
    have hsize : -(i.natAbs : Int) = i := by omega
    rw [number_toDigits true hword, wholeNumber, Bool.not_true, if_neg Bool.false_ne_true, if_neg hsmall,
      hsize]
  · rw [if_neg hi, List.nil_append]
    refine .plain ?_
    have hsize : (i.natAbs : Int) = i := by omega
    rw [number_toDigits false hword, wholeNumber, Bool.not_false, if_pos rfl,
      hsize]

end Whole

/-! ## The text of a double -/

/-- The character can stand in the text of a number behind its sign. -/
def InNumeral (c : Char) : Prop := c.isDigit = true ∨ c = '.' ∨ c = 'e' ∨ c = '+' ∨ c = '-'

/-- The text begins with a digit and has no blanks. -/
structure Numeral (cs : List Char) : Prop where
  /-- There is a digit in front. -/
  head : ∃ c ∈ cs.head?, c.isDigit = true
  /-- There are only characters of numbers. -/
  chars : ∀ c ∈ cs, InNumeral c

section Numeral

variable {ds cs : List Char}

/-- Digits with something behind. -/
theorem Numeral.of_digits (hne : ds ≠ []) (hds : ∀ c ∈ ds, c.isDigit = true)
    (hcs : ∀ c ∈ cs, InNumeral c) : Numeral (ds ++ cs) := by
  obtain ⟨c, rest, rfl⟩ := List.exists_cons_of_ne_nil hne
  refine ⟨⟨c, rfl, hds c List.mem_cons_self⟩, fun d hd => ?_⟩
  rcases List.mem_append.1 hd with hd | hd
  · exact .inl (hds d hd)
  · exact hcs d hd

/-- A digit with something behind. -/
theorem Numeral.of_digit {d : Char} (hd : d.isDigit = true) (hcs : ∀ c ∈ cs, InNumeral c) :
    Numeral (d :: cs) :=
  Numeral.of_digits (List.cons_ne_nil d []) (fun _ hc => List.mem_singleton.1 hc ▸ hd) hcs

theorem isDigit_of_mem_replicate {k : Nat} {c : Char} (h : c ∈ List.replicate k '0') :
    c.isDigit = true := by
  rw [List.eq_of_mem_replicate h]
  rfl

theorem inNumeral_exponent (e : Int) :
    ∀ c ∈ 'e' :: (if e < 0 then '-' :: Nat.toDigits 10 e.natAbs
      else numberLayout.plus.toList ++ Nat.toDigits 10 e.toNat), InNumeral c := by
  intro c hc
  rcases List.mem_cons.1 hc with rfl | hc
  · exact .inr (.inr (.inl rfl))
  · split at hc
    · rcases List.mem_cons.1 hc with rfl | hc
      · exact .inr (.inr (.inr (.inr rfl)))
      · exact .inl (Decimal.toDigits_isDigit _ c hc)
    · rcases List.mem_append.1 hc with hc | hc
      · exact .inr (.inr (.inr (.inl (List.mem_singleton.1 hc))))
      · exact .inl (Decimal.toDigits_isDigit _ c hc)

/-- A whole number. -/
theorem numeral_whole (hne : ds ≠ []) (hds : ∀ c ∈ ds, c.isDigit = true) (zeros : Nat) :
    Numeral (ds ++ List.replicate zeros '0' ++ ['.', '0']) := by
  rw [List.append_assoc]
  refine .of_digits hne hds fun c hc => ?_
  rcases List.mem_append.1 hc with hc | hc
  · exact .inl (isDigit_of_mem_replicate hc)
  · simp only [List.mem_cons, List.not_mem_nil, or_false] at hc
    rcases hc with rfl | rfl
    · exact .inr (.inl rfl)
    · exact .inl rfl

/-- A point among the digits. -/
theorem numeral_within (hne : ds ≠ []) (hds : ∀ c ∈ ds, c.isDigit = true) {point : Nat}
    (hpoint : point ≠ 0) : Numeral (ds.take point ++ '.' :: ds.drop point) := by
  have hfront : ds.take point ≠ [] := by
    rw [Ne, List.take_eq_nil_iff, not_or]
    exact ⟨hpoint, hne⟩
  refine .of_digits hfront (fun c hc => hds c (List.mem_of_mem_take hc)) fun c hc => ?_
  rcases List.mem_cons.1 hc with rfl | hc
  · exact .inr (.inl rfl)
  · exact .inl (hds c (List.mem_of_mem_drop hc))

/-- A point before the digits. -/
theorem numeral_before (hds : ∀ c ∈ ds, c.isDigit = true) (zeros : Nat) :
    Numeral ('0' :: '.' :: List.replicate zeros '0' ++ ds) := by
  refine .of_digit (d := '0') rfl fun c hc => ?_
  rcases List.mem_cons.1 hc with rfl | hc
  · exact .inr (.inl rfl)
  · rcases List.mem_append.1 hc with hc | hc
    · exact .inl (isDigit_of_mem_replicate hc)
    · exact .inl (hds c hc)

/-- Behind its sign the text of a double is a numeral. -/
theorem numeral_render (x : Binary64) :
    ∃ body, (x.render numberLayout).toList = (if x.negative then ['-'] else []) ++ body ∧
      Numeral body := by
  have hsign : (if x.negative = true then "-" else "").toList =
      if x.negative = true then ['-'] else [] := by
    split <;> rfl
  unfold Binary64.render
  dsimp only
  split
  · refine ⟨['0', '.', '0'], ?_, ⟨'0', rfl, rfl⟩, by simp [InNumeral]⟩
    rw [String.toList_append, hsign]
    rfl
  · generalize Binary64.shortest x.bits = s
    refine ⟨_, by rw [String.toList_append, hsign, String.toList_ofList], ?_⟩
    have hdigits := Decimal.toDigits_isDigit s.digits
    have hne : Nat.toDigits 10 s.digits ≠ [] := Nat.toDigits_ne_nil
    split
    · exact numeral_whole hne hdigits _
    · split
      · next hpoint => exact numeral_within hne hdigits (by omega)
      · split
        · exact numeral_before hdigits _
        · -- an exponent, with a point behind the first of more than one digit
          have hexponent := inNumeral_exponent (((Nat.toDigits 10 s.digits).length + s.exponent) - 1)
          generalize Nat.toDigits 10 s.digits = digits at hdigits hne hexponent ⊢
          cases digits with
          | nil => exact absurd rfl hne
          | cons d rest =>
            obtain ⟨hd, hrest⟩ := List.forall_mem_cons.1 hdigits
            cases rest with
            | nil => exact .of_digit hd hexponent
            | cons d' more =>
              refine .of_digit hd fun c hc => ?_
              rcases List.mem_append.1 hc with hc | hc
              · rcases List.mem_cons.1 hc with rfl | hc
                · exact .inr (.inl rfl)
                · exact .inl (hrest c hc)
              · exact hexponent c hc

end Numeral

/-! ## Numbers as values -/

section Value

variable {inner : Option (Reader Value)} {cs rest after text : List Char} {c : Char} {n : Number}

theorem valueWith_minus (inner : Option (Reader Value)) (cs : List Char) :
    valueWith inner ('-' :: cs) = (number true cs).map fun (n, rest) => (.number n, rest) := rfl

theorem valueWith_digit (inner : Option (Reader Value)) (hc : isDigit c = true) (cs : List Char) :
    valueWith inner (c :: cs) =
      (number false (c :: cs)).map fun (n, rest) => (.number n, rest) := by
  have hne : ∀ d : Char, isDigit d = false → c ≠ d := by
    rintro d hd rfl
    rw [hc] at hd
    cases hd
  have hspace : skipSpace (c :: cs) = c :: cs := by
    rw [skipSpace, List.dropWhile_cons, if_neg]
    simp [isSpace, hne ' ' rfl, hne '\n' rfl, hne '\t' rfl, hne '\r' rfl]
  simp [valueWith, hspace, hc, hne 'n' rfl, hne 't' rfl, hne 'f' rfl, hne '-' rfl]

/-- A number is read as a value before anything that separates. -/
theorem NumberText.valueWith (h : NumberText text n) (hafter : Separates after) :
    Json.valueWith inner (text ++ after) = .ok (.number n, after) := by
  cases h with
  | minus h =>
    rw [List.cons_append, valueWith_minus, (stops_number true).append hafter h]
    rfl
  | plain h =>
    have hstarts := startsNumber_of_number h
    have hread := (stops_number false).append hafter h
    cases text with
    | nil => cases hstarts
    | cons c more =>
      rw [List.cons_append] at hread ⊢
      rw [valueWith_digit inner (Bool.and_eq_true_iff.1 hstarts).1, hread]
      rfl

/-- Nothing but blanks is left of what has no blanks. -/
theorem eq_nil_of_skipSpace (hrest : rest <:+ cs) (hcs : ∀ c ∈ cs, isSpace c = false)
    (h : skipSpace rest = []) : rest = [] := by
  cases rest with
  | nil => rfl
  | cons c more =>
    have hc := hcs c (hrest.subset List.mem_cons_self)
    rw [skipSpace, List.dropWhile_cons, hc] at h
    cases h

theorem InNumeral.not_space (h : InNumeral c) : isSpace c = false := by
  rcases h with hdigit | rfl | rfl | rfl | rfl
  · refine Bool.eq_false_iff.2 fun hspace => ?_
    simp only [isSpace, Bool.or_eq_true, decide_eq_true_eq] at hspace
    rcases hspace with ((rfl | rfl) | rfl) | rfl <;> cases hdigit
  all_goals rfl

/-- The text of a double is one number if it reads as one by itself. -/
theorem numberText_of_value {x : Binary64}
    (h : Json.valueWith inner (x.render numberLayout).toList = .ok (.number n, rest))
    (hrest : skipSpace rest = []) : NumberText (x.render numberLayout).toList n := by
  obtain ⟨body, htext, hbody⟩ := numeral_render x
  have hspace : ∀ c ∈ body, isSpace c = false := fun c hc => (hbody.chars c hc).not_space
  rw [htext] at h ⊢
  have hread : ∀ negative, (number negative body).map (fun (n, rest) => (Value.number n, rest)) =
      .ok (.number n, rest) → number negative body = .ok (n, []) := by
    intro negative hmap
    cases hnumber : number negative body with
    | error fault =>
      rw [hnumber] at hmap
      cases hmap
    | ok found =>
      obtain ⟨m, left⟩ := found
      rw [hnumber] at hmap
      cases hmap
      rw [eq_nil_of_skipSpace ((stops_number negative).suffix hnumber) hspace hrest]
  split at h
  · next hnegative =>
    rw [if_pos hnegative]
    exact .minus (hread true h)
  · next hnegative =>
    rw [if_neg hnegative]
    refine .plain (hread false ?_)
    obtain ⟨c, hhead, hdigit⟩ := hbody.head
    obtain ⟨more, rfl⟩ := List.head?_eq_some_iff.1 hhead
    rw [← valueWith_digit inner (Decimal.isDigit_eq hdigit)]
    exact h

end Value

end Runbook.Json
