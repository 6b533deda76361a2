import Runbook.Json.Value
import Runbook.Number.Decimal
import Runbook.Text.Utf8

/-!
# Reading JSON text

`Json.parse` reads one value and nothing but blanks after it.

* a `Fault` says what is wrong and how much of the text was left when it was found; its line and
  column are counted in bytes;
* lists and maps nest to `maxDepth` levels;
* of two fields under one name the later one stays;
* a number with a point or an exponent, a whole number beyond 64 bits and `-0` are doubles, scaled
  by one rounded power of ten.
-/

namespace Runbook.Json

/-- What can be wrong with a text. -/
inductive Cause where
  /-- The text ends where a list goes on. -/
  | endInList
  /-- The text ends where a map goes on. -/
  | endInObject
  /-- The text ends inside a quoted text. -/
  | endInString
  /-- The text ends where a value is due. -/
  | endInValue
  /-- No colon after a field's name. -/
  | expectedColon
  /-- Neither a comma nor the end after an item. -/
  | expectedListCommaOrEnd
  /-- Neither a comma nor the end after a field. -/
  | expectedObjectCommaOrEnd
  /-- A word that starts like a literal and is none. -/
  | expectedIdent
  /-- A character that starts no value. -/
  | expectedValue
  /-- An unknown character after a backslash, or bad digits. -/
  | invalidEscape
  /-- A malformed number. -/
  | invalidNumber
  /-- A number too large for a double. -/
  | numberOutOfRange
  /-- A control character inside a quoted text. -/
  | controlCharacter
  /-- A field's name that is not quoted. -/
  | keyMustBeString
  /-- Half of a surrogate pair. -/
  | loneSurrogate
  /-- A comma before a closing bracket. -/
  | trailingComma
  /-- Text after the value. -/
  | trailingCharacters
  /-- The second half of a surrogate pair is missing. -/
  | unexpectedEndOfEscape
  /-- Lists and maps nest too deeply. -/
  | tooDeep
  deriving DecidableEq, Repr

/-- The wording of a cause. -/
def Cause.text : Cause → String
  | .endInList => "EOF while parsing a list"
  | .endInObject => "EOF while parsing an object"
  | .endInString => "EOF while parsing a string"
  | .endInValue => "EOF while parsing a value"
  | .expectedColon => "expected \x60:\x60"
  | .expectedListCommaOrEnd => "expected \x60,\x60 or \x60]\x60"
  | .expectedObjectCommaOrEnd => "expected \x60,\x60 or \x60\x7d\x60"
  | .expectedIdent => "expected ident"
  | .expectedValue => "expected value"
  | .invalidEscape => "invalid escape"
  | .invalidNumber => "invalid number"
  | .numberOutOfRange => "number out of range"
  | .controlCharacter =>
    "control character (\\u0000-\\u001F) found while parsing a string"
  | .keyMustBeString => "key must be a string"
  | .loneSurrogate => "lone leading surrogate in hex escape"
  | .trailingComma => "trailing comma"
  | .trailingCharacters => "trailing characters"
  | .unexpectedEndOfEscape => "unexpected end of hex escape"
  | .tooDeep => "recursion limit exceeded"

/-- A cause, and where it was found. -/
structure Fault where
  /-- What is wrong. -/
  cause : Cause
  /-- The number of characters that were left. -/
  left : Nat
  /-- The number of bytes, of those left, that the fault is counted to include. -/
  extra : Nat
  deriving DecidableEq, Repr

/-- Line and column of the end of some bytes; the column counts the bytes of the last line. -/
def position (bytes : List UInt8) : Nat × Nat :=
  bytes.foldl
    (fun (place : Nat × Nat) (b : UInt8) =>
      if b = 10 then (place.1 + 1, 0) else (place.1, place.2 + 1))
    (1, 0)

/-- The text of a fault found in `input`. -/
def Fault.text (f : Fault) (input : List Char) : String :=
  let done := Utf8.length (input.take (input.length - f.left))
  let (line, column) := position ((Utf8.encode (String.ofList input)).take (done + f.extra))
  f.cause.text ++ " at line " ++ toString line ++ " column " ++ toString column

/-- A reader takes what it reads off the front of a text. -/
abbrev Reader (α : Type) := List Char → Except Fault (α × List Char)

/-- A fault at a place, counted to include `extra` bytes after it. -/
def fail {α : Type} (cause : Cause) (rest : List Char) (extra : Nat) : Except Fault α :=
  .error ⟨cause, rest.length, extra⟩

/-- The blanks between the parts of a value. -/
def isSpace (c : Char) : Bool := c = ' ' || c = '\n' || c = '\t' || c = '\r'

/-- Drops blanks. -/
def skipSpace (cs : List Char) : List Char := cs.dropWhile isSpace

/-- Reads the rest of a literal word. -/
def word : List Char → Value → Reader Value
  | [], v, cs => .ok (v, cs)
  | _ :: _, _, [] => fail .endInValue [] 0
  | w :: ws, v, c :: cs => if c = w then word ws v cs else fail .expectedIdent (c :: cs) 1

/-- Reads four hexadecimal digits. -/
def hexFour (cs : List Char) : Except Fault (Nat × List Char) :=
  if Utf8.length (cs.take 4) < 4 then fail .endInString [] 0
  else
    match (cs.take 4).mapM (Decimal.digitValueIn? 16) with
    | some [a, b, c, d] => .ok (((a * 16 + b) * 16 + c) * 16 + d, cs.drop 4)
    | _ => fail .invalidEscape cs 4

/-- Reads the digits of an escaped code unit, and those of its other half if it is a surrogate. -/
def unicodeEscape (cs : List Char) : Except Fault (Char × List Char) := do
  let (high, rest) ← hexFour cs
  if 0xDC00 ≤ high ∧ high ≤ 0xDFFF then fail .loneSurrogate rest 0
  else if high < 0xD800 ∨ 0xDBFF < high then .ok (Char.ofNat high, rest)
  else
    match rest with
    | '\\' :: 'u' :: more =>
      let (low, rest) ← hexFour more
      if low < 0xDC00 ∨ 0xDFFF < low then fail .loneSurrogate rest 0
      else .ok (Char.ofNat (0x10000 + (high - 0xD800) * 0x400 + (low - 0xDC00)), rest)
    | '\\' :: [] => fail .endInString [] 0
    | '\\' :: other => fail .unexpectedEndOfEscape other 1
    | [] => fail .endInString [] 0
    | _ => fail .unexpectedEndOfEscape rest 1

/-- Reads a quoted text after its opening quote; the fuel bounds the characters read, and `acc`
holds them in reverse. -/
def stringFrom : Nat → List Char → Reader String
  | 0, _, cs => fail .endInString cs 0
  | fuel + 1, acc, cs =>
    match cs with
    | [] => fail .endInString [] 0
    | '"' :: rest => .ok (String.ofList acc.reverse, rest)
    | '\\' :: rest =>
      match rest with
      | [] => fail .endInString [] 0
      | '"' :: more => stringFrom fuel ('"' :: acc) more
      | '\\' :: more => stringFrom fuel ('\\' :: acc) more
      | '/' :: more => stringFrom fuel ('/' :: acc) more
      | 'b' :: more => stringFrom fuel ('\x08' :: acc) more
      | 'f' :: more => stringFrom fuel ('\x0c' :: acc) more
      | 'n' :: more => stringFrom fuel ('\n' :: acc) more
      | 'r' :: more => stringFrom fuel ('\r' :: acc) more
      | 't' :: more => stringFrom fuel ('\t' :: acc) more
      | 'u' :: more =>
        match unicodeEscape more with
        | .ok (c, rest) => stringFrom fuel (c :: acc) rest
        | .error f => .error f
      | _ => fail .invalidEscape rest 1
    | c :: rest =>
      if c.toNat < 32 then fail .controlCharacter (c :: rest) 1
      else stringFrom fuel (c :: acc) rest

/-- Reads a quoted text after its opening quote. -/
def string (cs : List Char) : Except Fault (String × List Char) :=
  stringFrom (cs.length + 1) [] cs

/-- The largest whole number of 64 bits. -/
def maxWord : Nat := twoTo 64 - 1

/-- Takes digits as long as the number they make fits 64 bits.  Gives the number, how many digits
were taken, and the rest. -/
def wordDigits (n count : Nat) : List Char → Nat × Nat × List Char
  | [] => (n, count, [])
  | c :: rest =>
    match Decimal.digitValue? c with
    | none => (n, count, c :: rest)
    | some d => if n * 10 + d ≤ maxWord then wordDigits (n * 10 + d) (count + 1) rest
      else (n, count, c :: rest)

/-- A power of ten as a double, if it is finite. -/
def powerOfTen (e : Nat) : Binary64 := ⟨false, Binary64.bitsOfRatio (tenTo e) 1⟩

/-- Divides by `10 ^ e`, in rounded steps of at most `10 ^ 308`. -/
def divideByPower : Nat → Binary64 → Nat → Binary64
  | 0, x, _ => x
  | fuel + 1, x, e =>
    if e ≤ 308 then (x.div? (powerOfTen e)).getD x
    else if x.bits = 0 then x
    else divideByPower fuel ((x.div? (powerOfTen 308)).getD x) (e - 308)

/-- The double `n * 10 ^ exponent`: the number is rounded once as a whole, and once more for each
power of ten it is multiplied or divided by. -/
def scale (negative : Bool) (n : Nat) (exponent : Int) : Option Binary64 :=
  let x : Binary64 := ⟨false, Binary64.bitsOfRatio n 1⟩
  let signed (y : Binary64) : Binary64 := ⟨negative, y.bits⟩
  if exponent < 0 then some (signed (divideByPower 4 x exponent.natAbs))
  else if exponent ≤ 308 then (x.mul? (powerOfTen exponent.toNat)).map signed
  else if n = 0 then some (signed x)
  else none

/-- Makes the double of a number whose last character is before `rest`. -/
def finish (negative : Bool) (n : Nat) (exponent : Int) (rest : List Char) :
    Except Fault (Number × List Char) :=
  match scale negative n exponent with
  | some x => .ok (.float x, rest)
  | none => fail .numberOutOfRange rest 0

/-- The largest exponent that is read in full. -/
def maxExponent : Nat := twoTo 31 - 1

/-- Reads an exponent after its letter. -/
def exponentPart (negative : Bool) (n : Nat) (start : Int) (cs : List Char) :
    Except Fault (Number × List Char) :=
  let (down, digits) := match cs with
    | '+' :: rest => (false, rest)
    | '-' :: rest => (true, rest)
    | _ => (false, cs)
  match digits with
  | [] => fail .endInValue [] 0
  | c :: _ =>
    if !Decimal.isDigit c then fail .invalidNumber digits 1
    else
      let run := digits.takeWhile Decimal.isDigit
      let rest := digits.dropWhile Decimal.isDigit
      let e := Decimal.natOfDigits run
      if e ≤ maxExponent then
        finish negative n (if down then start - e else start + e) rest
      else if n ≠ 0 ∧ !down then
        let fits := (List.range run.length).takeWhile
          fun k => Decimal.natOfDigits (run.take (k + 1)) ≤ maxExponent
        fail .numberOutOfRange (digits.drop (fits.length + 1)) 0
      else .ok (.float ⟨negative, 0⟩, rest)

/-- Continues after the digits of a double: an exponent, or the end of the number. -/
def afterDigits (negative : Bool) (n : Nat) (exponent : Int) (cs : List Char) :
    Except Fault (Number × List Char) :=
  match cs with
  | 'e' :: rest | 'E' :: rest => exponentPart negative n exponent rest
  | _ => finish negative n exponent cs

/-- Reads the digits after a point.  Digits that no longer fit 64 bits are dropped. -/
def fractionPart (negative : Bool) (n : Nat) (start : Int) (cs : List Char) :
    Except Fault (Number × List Char) :=
  match cs with
  | [] => fail .endInValue [] 0
  | c :: _ =>
    if !Decimal.isDigit c then fail .invalidNumber cs 1
    else
      let (n, count, rest) := wordDigits n 0 cs
      afterDigits negative n (start - count) (rest.dropWhile Decimal.isDigit)

/-- Reads a number after its sign. -/
def number (negative : Bool) (cs : List Char) : Except Fault (Number × List Char) :=
  match cs with
  | [] => fail .endInValue [] 0
  | c :: more =>
    if !Decimal.isDigit c then fail .invalidNumber cs 1
    else if c = '0' ∧ (more.head?.map Decimal.isDigit).getD false then fail .invalidNumber more 1
    else
      let (n, _, rest) := wordDigits 0 0 cs
      match rest with
      | '.' :: rest => fractionPart negative n 0 rest
      | 'e' :: rest | 'E' :: rest => exponentPart negative n 0 rest
      | d :: _ =>
        if Decimal.isDigit d then
          let dropped := (rest.takeWhile Decimal.isDigit).length
          match rest.dropWhile Decimal.isDigit with
          | '.' :: rest => fractionPart negative n dropped rest
          | rest => afterDigits negative n dropped rest
        else whole n rest
      | [] => whole n []
where
  /-- A whole number keeps its kind unless its sign makes it zero or too small. -/
  whole (n : Nat) (rest : List Char) : Except Fault (Number × List Char) :=
    if !negative then .ok (.int n, rest)
    else if n = 0 ∨ twoTo 63 < n then .ok (.float ⟨true, Binary64.bitsOfRatio n 1⟩, rest)
    else .ok (.int (-(n : Int)), rest)

/-- Reads the items of a list after its opening bracket. -/
def items (item : Reader Value) : Nat → Bool → Reader (List Value)
  | 0, _, cs => fail .endInList cs 0
  | fuel + 1, first, cs =>
    match skipSpace cs with
    | [] => fail .endInList [] 0
    | ']' :: rest => .ok ([], rest)
    | c :: rest => do
      let start ←
        if first then .ok (c :: rest)
        else if c = ',' then
          match skipSpace rest with
          | [] => fail .endInValue [] 0
          | ']' :: more => fail .trailingComma (']' :: more) 1
          | more => .ok more
        else fail .expectedListCommaOrEnd (c :: rest) 1
      let (v, rest) ← item start
      let (vs, rest) ← items item fuel false rest
      .ok (v :: vs, rest)

/-- Reads the fields of a map after its opening brace. -/
def fields (item : Reader Value) : Nat → Bool → KeyMap Value → Reader Value
  | 0, _, _, cs => fail .endInObject cs 0
  | fuel + 1, first, done, cs =>
    match skipSpace cs with
    | [] => fail .endInObject [] 0
    | '\x7d' :: rest => .ok (.ofMap done, rest)
    | c :: rest => do
      let start ←
        if first then
          if c = '"' then .ok rest else fail .keyMustBeString (c :: rest) 1
        else if c = ',' then
          match skipSpace rest with
          | [] => fail .endInValue [] 0
          | '"' :: more => .ok more
          | '\x7d' :: more => fail .trailingComma ('\x7d' :: more) 1
          | more => fail .keyMustBeString more 1
        else fail .expectedObjectCommaOrEnd (c :: rest) 1
      let (name, rest) ← string start
      match skipSpace rest with
      | [] => fail .endInObject [] 0
      | ':' :: rest =>
        let (v, rest) ← item rest
        fields item fuel false (done.insert name v) rest
      | rest => fail .expectedColon rest 1

/-- Reads a value whose lists and maps have the items that `inner` reads; without `inner` they are
too deep. -/
def valueWith (inner : Option (Reader Value)) : Reader Value := fun cs =>
  match skipSpace cs with
  | [] => fail .endInValue [] 0
  | c :: rest =>
    if c = 'n' then word ['u', 'l', 'l'] .null rest
    else if c = 't' then word ['r', 'u', 'e'] (.bool true) rest
    else if c = 'f' then word ['a', 'l', 's', 'e'] (.bool false) rest
    else if c = '-' then (number true rest).map fun (n, rest) => (.number n, rest)
    else if Decimal.isDigit c then
      (number false (c :: rest)).map fun (n, rest) => (.number n, rest)
    else if c = '"' then (string rest).map fun (s, rest) => (.string s, rest)
    else if c = '[' then
      match inner with
      | none => fail .tooDeep (c :: rest) 1
      | some item =>
        (items item (rest.length + 1) true rest).map fun (vs, rest) => (.array vs, rest)
    else if c = '\x7b' then
      match inner with
      | none => fail .tooDeep (c :: rest) 1
      | some item => fields item (rest.length + 1) true .empty rest
    else fail .expectedValue (c :: rest) 1

/-- Reads a value whose lists and maps nest to at most `depth` levels. -/
def value : Nat → Reader Value
  | 0 => valueWith none
  | depth + 1 => valueWith (some (value depth))

/-- The number of levels to which lists and maps may nest. -/
def maxDepth : Nat := 127

/-- Reads a value that is the whole text. -/
def parse (cs : List Char) : Except Fault Value := do
  let (v, rest) ← value maxDepth cs
  match skipSpace rest with
  | [] => .ok v
  | rest => fail .trailingCharacters rest 1

/-- The value of a text, if it is JSON. -/
def parse? (s : String) : Option Value := (parse s.toList).toOption

/-- The value of a text, or the text of the fault in it. -/
def parseText (s : String) : Except String Value :=
  (parse s.toList).mapError (·.text s.toList)

end Runbook.Json
