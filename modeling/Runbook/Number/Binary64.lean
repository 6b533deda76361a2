/-!
# Finite doubles as exact data

A finite double is a sign and a bit pattern below the pattern of infinity.  Bit patterns grow
with the number they stand for, so no operation here needs hardware arithmetic:

* `twoTo` and `tenTo` are powers of two, which bound the whole numbers of a number of bits, and
  powers of ten;
* every finite double is a whole multiple of `2 ^ -1074`, and `units` is that multiple;
* `ofRatio` rounds an exact quotient to the nearest pattern, ties to the even one;
* numbers are compared through `toUnits`, where the two zeros coincide.
-/

namespace Runbook

/-- A power of two. -/
def twoTo (n : Nat) : Nat := Nat.pow 2 n

/-- A power of ten. -/
def tenTo (n : Nat) : Nat := Nat.pow 10 n

/-- A finite double: the sign, and the 63 bits below it. -/
structure Binary64 where
  /-- Set for `-0.0` as well. -/
  negative : Bool
  /-- The exponent and fraction bits, read as one natural number. -/
  bits : Nat
  deriving DecidableEq, Repr, Inhabited

namespace Binary64

/-- The bit pattern of infinity: the first one that no finite double has. -/
def infinityBits : Nat := 0x7FF0000000000000

/-- The exponent of the smallest positive double, negated. -/
def unitExponent : Nat := 1074

/-- The value of a bit pattern as a multiple of the smallest positive double. -/
def unitsOfBits (bits : Nat) : Nat :=
  let shift := bits / twoTo 52 - 1
  (bits - shift * twoTo 52) * twoTo shift

/-- The whole number nearest to `num / den`, a tie going to the even neighbour. -/
def roundHalfEven (num den : Nat) : Nat :=
  let q := num / den
  let twice := 2 * (num % den)
  if twice < den then q
  else if den < twice then q + 1
  else q + q % 2

/-- The bit pattern nearest to `num / den`; it may be the pattern of infinity or above. -/
def bitsOfRatio (num den : Nat) : Nat :=
  let scaled := num * twoTo unitExponent
  let shift := (scaled / den).log2 - 52
  roundHalfEven scaled (den * twoTo shift) + shift * twoTo 52

/-- The double nearest to `± num / den`, or nothing when it is too large to be finite. -/
def ofRatio (negative : Bool) (num den : Nat) : Option Binary64 :=
  let bits := bitsOfRatio num den
  if bits < infinityBits then some ⟨negative, bits⟩ else none

/-- The size of a number in units of the smallest positive double. -/
def units (x : Binary64) : Nat := unitsOfBits x.bits

/-- The exact value in units of the smallest positive double; both zeros are zero. -/
def toUnits (x : Binary64) : Int :=
  if x.negative then -(x.units : Int) else x.units

/-- The order of the numbers themselves: the two zeros are equal. -/
def compare (x y : Binary64) : Ordering := Ord.compare x.toUnits y.toUnits

/-- The double nearest to a whole number, for whole numbers of any size a document can hold. -/
def ofInt (i : Int) : Binary64 := ⟨decide (i < 0), bitsOfRatio i.natAbs 1⟩

/-- The product, rounded to nearest, or nothing when it is too large. -/
def mul? (x y : Binary64) : Option Binary64 :=
  ofRatio (x.negative != y.negative) (x.units * y.units) (twoTo (2 * unitExponent))

/-- The quotient, rounded to nearest, or nothing when it is too large. -/
def div? (x y : Binary64) : Option Binary64 :=
  ofRatio (x.negative != y.negative) x.units y.units

/-- The double nearest to `digits * 10 ^ exponent`.  Exponents far beyond the range are settled
without building the power. -/
def ofDecimal? (negative : Bool) (digits : Nat) (exponent : Int) : Option Binary64 :=
  if digits = 0 then some ⟨negative, 0⟩
  else
    let size : Int := digits.log2 * 30103 / 100000 + exponent
    if size > 310 then none
    else if size < -330 then some ⟨negative, 0⟩
    else if 0 ≤ exponent then ofRatio negative (digits * tenTo exponent.toNat) 1
    else ofRatio negative digits (tenTo (-exponent).toNat)

@[simp] theorem compare_self (x : Binary64) : x.compare x = .eq := by
  simp [compare]

/-- Comparing the other way round reverses the answer. -/
theorem compare_swap (x y : Binary64) : (x.compare y).swap = y.compare x := by
  simp only [compare, Int.compare_swap]

end Binary64

end Runbook
