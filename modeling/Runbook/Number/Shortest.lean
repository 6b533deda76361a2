import Runbook.Number.Binary64

/-!
# The fewest digits that read back

`shortest` gives the decimal number with the fewest digits among those that round to a given
double, and the nearest of these.  For each digit count the two neighbours of the double on that
decimal grid are tested; a grid that meets the rounding interval has one of them in it.

* `Scientific` is a decimal number, digits times a power of ten;
* `Layout` says where positional notation ends and how an exponent is written;
* `Binary64.render` is the text of a double under a layout.
-/

namespace Runbook

/-- The number `digits * 10 ^ exponent`. -/
structure Scientific where
  /-- The digits, as a whole number. -/
  digits : Nat
  /-- The power of ten that the last digit counts. -/
  exponent : Int
  deriving DecidableEq, Repr

namespace Scientific

/-- Drops trailing zeros; the fuel bounds the number of digits dropped. -/
def dropZeros : Nat → Scientific → Scientific
  | 0, s => s
  | fuel + 1, s =>
    if s.digits ≠ 0 ∧ s.digits % 10 = 0 then dropZeros fuel ⟨s.digits / 10, s.exponent + 1⟩ else s

end Scientific

namespace Binary64

/-- Whether `10 ^ e` is at most `num / den`. -/
def powerOfTenLe (e : Int) (num den : Nat) : Bool :=
  if 0 ≤ e then den * tenTo e.toNat ≤ num else den ≤ num * tenTo (-e).toNat

/-- The exponent of the leading decimal digit of a positive quotient. -/
def leadingExponent (num den : Nat) : Int :=
  let guess : Int := ((num.log2 : Int) - den.log2) * 30103 / 100000
  if powerOfTenLe (guess + 1) num den then guess + 1
  else if powerOfTenLe guess num den then guess
  else guess - 1

/-- The neighbour of the double on the grid of multiples of `10 ^ grid` that lies in its rounding
interval, the nearer one if both do. -/
def onGrid? (bits : Nat) (grid : Int) : Option Scientific :=
  let up := if grid < 0 then tenTo (-grid).toNat else 1
  let unit := (if 0 < grid then tenTo grid.toNat else 1) * twoTo (unitExponent + 1)
  let middle := 2 * unitsOfBits bits * up
  let low := (unitsOfBits (bits - 1) + unitsOfBits bits) * up
  let high := (unitsOfBits bits + unitsOfBits (bits + 1)) * up
  let inside (d : Nat) : Bool :=
    if bits % 2 = 0 then low ≤ d * unit && d * unit ≤ high else low < d * unit && d * unit < high
  let below := middle / unit
  let rest := middle % unit
  match inside below, inside (below + 1) with
  | true, true =>
    let pick := if 2 * rest < unit || (2 * rest = unit && below % 2 = 0) then below else below + 1
    some ⟨pick, grid⟩
  | true, false => some ⟨below, grid⟩
  | false, true => some ⟨below + 1, grid⟩
  | false, false => none

/-- Tries ever finer grids, starting with one digit. -/
def shortestFrom (bits : Nat) (lead : Int) : Nat → Nat → Scientific
  | 0, _ => ⟨unitsOfBits bits, 0⟩
  | fuel + 1, count =>
    match onGrid? bits (lead - count) with
    | some s => s
    | none => shortestFrom bits lead fuel (count + 1)

/-- The shortest decimal number that reads back as the double with these bits. -/
def shortest (bits : Nat) : Scientific :=
  if bits = 0 then ⟨0, 0⟩
  else
    let lead := leadingExponent (unitsOfBits bits) (twoTo unitExponent)
    (shortestFrom bits lead 18 0).dropZeros 20

/-- How the text of a double is laid out. -/
structure Layout where
  /-- Positional notation is used while the decimal point is at most this far to the right of the
  first digit. -/
  maxWhole : Int
  /-- Positional notation is used while at most this many zeros follow the point. -/
  maxZeros : Int
  /-- The sign written before a positive exponent. -/
  plus : String

/-- The text of a double; whole numbers keep a `.0` in positional notation. -/
def render (layout : Layout) (x : Binary64) : String :=
  let sign := if x.negative then "-" else ""
  if x.bits = 0 then sign ++ "0.0"
  else
    let s := shortest x.bits
    let digits := (Nat.toDigits 10 s.digits)
    let point : Int := digits.length + s.exponent
    let text : List Char :=
      if 0 ≤ s.exponent ∧ point ≤ layout.maxWhole then
        digits ++ List.replicate s.exponent.toNat '0' ++ ['.', '0']
      else if 0 < point ∧ point ≤ layout.maxWhole then
        digits.take point.toNat ++ '.' :: digits.drop point.toNat
      else if -layout.maxZeros ≤ point ∧ point ≤ 0 then
        '0' :: '.' :: List.replicate (-point).toNat '0' ++ digits
      else
        let e := point - 1
        let head := match digits with
          | [d] => [d]
          | d :: rest => d :: '.' :: rest
          | [] => []
        head ++ 'e' :: (if e < 0 then '-' :: Nat.toDigits 10 e.natAbs
          else layout.plus.toList ++ Nat.toDigits 10 e.toNat)
    sign ++ String.ofList text

end Binary64

end Runbook
