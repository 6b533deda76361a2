import Runbook.Number.Binary64

/-!
# Reading numbers

Two readers of decimal text.

* `readInt?` reads a whole number between two bounds: an optional sign, then digits only.
* `readFloat?` reads a double: digits with an optional point and exponent, or one of the words
  for infinity and not-a-number in any letter case.  A number too large for a double reads as
  infinity.
-/

namespace Runbook.Decimal

/-- The value of a decimal digit. -/
def digitValue? (c : Char) : Option Nat :=
  if '0' ≤ c ∧ c ≤ '9' then some (c.toNat - '0'.toNat) else none

/-- Whether the character is one of the ten decimal digits. -/
def isDigit (c : Char) : Bool := (digitValue? c).isSome

/-- The number that a run of digits stands for. -/
def natOfDigits (cs : List Char) : Nat :=
  cs.foldl (fun n c => n * 10 + (digitValue? c).getD 0) 0

/-- The value of a digit in a base up to sixteen. -/
def digitValueIn? (base : Nat) (c : Char) : Option Nat :=
  let v :=
    if '0' ≤ c ∧ c ≤ '9' then c.toNat - '0'.toNat
    else if 'a' ≤ c ∧ c ≤ 'z' then c.toNat - 'a'.toNat + 10
    else if 'A' ≤ c ∧ c ≤ 'Z' then c.toNat - 'A'.toNat + 10
    else base
  if v < base then some v else none

/-- The number that a non-empty run of digits in `base` stands for. -/
def readNatIn? (base : Nat) (cs : List Char) : Option Nat :=
  if cs.isEmpty then none
  else cs.foldl (fun acc c => do return (← acc) * base + (← digitValueIn? base c)) (some 0)

/-- A non-empty run of decimal digits and nothing else. -/
def readNat? (cs : List Char) : Option Nat := readNatIn? 10 cs

/-- A whole number between `low` and `high`: an optional sign, then digits. -/
def readInt? (low high : Int) (cs : List Char) : Option Int := do
  let value : Int ← match cs with
    | '+' :: rest => (readNat? rest).map Int.ofNat
    | '-' :: rest => if low < 0 then (readNat? rest).map (fun n => -(n : Int)) else none
    | _ => (readNat? cs).map Int.ofNat
  if low ≤ value ∧ value ≤ high then some value else none

/-- A whole number that fits 64 bits with a sign. -/
def readInt64? (cs : List Char) : Option Int := readInt? (-twoTo 63) (twoTo 63 - 1) cs

/-- A natural number below `2 ^ bits`; a plus sign may stand before it. -/
def readBits? (bits : Nat) (cs : List Char) : Option Nat :=
  (readInt? 0 (twoTo bits - 1) cs).map Int.toNat

/-- What decimal text can stand for. -/
inductive Reading where
  /-- An ordinary number. -/
  | finite (x : Binary64)
  /-- A number too large, or the word for infinity. -/
  | infinite (negative : Bool)
  /-- The word for not-a-number. -/
  | nan
  deriving DecidableEq, Repr

/-- The number, if it is finite. -/
def Reading.finite? : Reading → Option Binary64
  | .finite x => some x
  | _ => none

/-- The digits before and after the point, and what follows them. -/
def splitMantissa (cs : List Char) : List Char × List Char × List Char :=
  let whole := cs.takeWhile isDigit
  match cs.dropWhile isDigit with
  | '.' :: rest => (whole, rest.takeWhile isDigit, rest.dropWhile isDigit)
  | rest => (whole, [], rest)

/-- The exponent part: absent, or a letter, an optional sign and digits. -/
def readExponent? : List Char → Option Int
  | [] => some 0
  | c :: rest =>
    if c = 'e' ∨ c = 'E' then
      match rest with
      | '+' :: ds => (readNat? ds).map Int.ofNat
      | '-' :: ds => (readNat? ds).map (fun n => -(n : Int))
      | ds => (readNat? ds).map Int.ofNat
    else none

/-- An unsigned double: digits, perhaps with a point and an exponent. -/
def readUnsigned? (negative : Bool) (cs : List Char) : Option Reading := do
  let (whole, fraction, rest) := splitMantissa cs
  if whole.isEmpty && fraction.isEmpty then none
  let exponent ← readExponent? rest
  match Binary64.ofDecimal? negative (natOfDigits (whole ++ fraction))
      (exponent - fraction.length) with
  | some x => some (.finite x)
  | none => some (.infinite negative)

/-- Lowercases the 26 letters of the basic alphabet. -/
def lowerAscii (cs : List Char) : List Char := cs.map Char.toLower

/-- A double in decimal text, with an optional sign. -/
def readFloat? (cs : List Char) : Option Reading :=
  let (negative, body) := match cs with
    | '-' :: rest => (true, rest)
    | '+' :: rest => (false, rest)
    | _ => (false, cs)
  if lowerAscii body = "inf".toList ∨ lowerAscii body = "infinity".toList then
    some (.infinite negative)
  else if lowerAscii body = "nan".toList then some .nan
  else readUnsigned? negative body

end Runbook.Decimal
