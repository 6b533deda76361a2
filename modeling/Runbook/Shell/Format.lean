import Runbook.Number.Shortest
import Runbook.Shell.Arithmetic
import Runbook.Text.Utf8

/-!
# Formatted output

The texts that `echo` and `printf` write.

* `unescape` reads the escapes of a text;
* `echoBytes` is what `echo` writes;
* `Directive` is a part of a format, and `readFormat` reads a format;
* `formatBytes` is what `printf` writes, its format used again as long as arguments are left.
-/

namespace Runbook.Shell

/-- The byte that an escape of one letter stands for. -/
def escapeLetter? (c : Char) : Option UInt8 :=
  match c with
  | 'a' => some 7
  | 'b' => some 8
  | 'e' => some 27
  | 'f' => some 12
  | 'n' => some 10
  | 'r' => some 13
  | 't' => some 9
  | 'v' => some 11
  | '\\' => some 92
  | _ => none

/-- Whether a character is a digit of base 8. -/
def isOctal (c : Char) : Bool := '0' ≤ c && c ≤ '7'

/-- The byte that octal digits write. -/
def octalByte (ds : List Char) : UInt8 :=
  UInt8.ofNat (ds.foldl (fun n d => 8 * n + (d.toNat - '0'.toNat)) 0)

/-- Up to so many characters of a kind in front, and the rest. -/
def takeUpTo (limit : Nat) (p : Char → Bool) (cs : List Char) : List Char × List Char :=
  let front := (cs.take limit).takeWhile p
  (front, cs.drop front.length)

/-- The byte after a backslash and the rest; `zero` says that octal digits come after a zero. -/
def escape? (zero : Bool) (cs : List Char) : Option (UInt8 × List Char) :=
  match cs with
  | [] => none
  | c :: rest =>
    match escapeLetter? c with
    | some b => some (b, rest)
    | none =>
      if zero && c = '0' then
        let (ds, rest) := takeUpTo 3 isOctal rest
        some (octalByte ds, rest)
      else if isOctal c then
        let (ds, rest) := takeUpTo 3 isOctal (c :: rest)
        some (octalByte ds, rest)
      else none

/-- The bytes of a text with its escapes read, and whether it goes on: not after `\c`. `fuel` is at
least the length of the text. -/
def unescape (zero : Bool) : (fuel : Nat) → List Char → List UInt8 × Bool
  | 0, _ => ([], true)
  | _ + 1, [] => ([], true)
  | fuel + 1, '\\' :: rest =>
    if rest.head? = some 'c' then ([], false)
    else match escape? zero rest with
      | some (b, rest) =>
        let (bytes, goesOn) := unescape zero fuel rest
        (b :: bytes, goesOn)
      | none =>
        let (bytes, goesOn) := unescape zero fuel rest
        (92 :: bytes, goesOn)
  | fuel + 1, c :: rest =>
    let (bytes, goesOn) := unescape zero fuel rest
    (Utf8.encode (String.singleton c) ++ bytes, goesOn)

/-- What `echo` writes: its arguments with blanks between them, the escapes in them read. -/
def echoBytes (args : List String) : List UInt8 :=
  let (newline, args) := match args with
    | "-n" :: rest => (false, rest)
    | args => (true, args)
  let text := (" ".intercalate args).toList
  let (bytes, goesOn) := unescape true (text.length + 1) text
  if newline && goesOn then bytes ++ [10] else bytes

/-- What the program `echo` writes, which reads no escapes unless it is told to. -/
def plainEchoBytes (args : List String) : List UInt8 :=
  let isOption (s : String) : Bool :=
    match s.toList with
    | '-' :: c :: cs => (c :: cs).all "neE".toList.contains
    | _ => false
  let options := (args.takeWhile isOption).flatMap (fun s => s.toList.drop 1)
  let text := (" ".intercalate (args.dropWhile isOption)).toList
  let reads := (options.filter (· != 'n')).getLast? == some 'e'
  let (bytes, goesOn) :=
    if reads then unescape true (text.length + 1) text
    else (Utf8.encode (String.ofList text), true)
  if goesOn && !options.contains 'n' then bytes ++ [10] else bytes

/-! ## Formats -/

/-- How wide or precise a value is. -/
inductive Amount where
  /-- It is not said. -/
  | unsaid
  /-- A number. -/
  | given (n : Nat)
  /-- The next argument says it. -/
  | argument
  deriving DecidableEq, Repr

/-- How a value is to be laid out. -/
structure Field where
  /-- The flags. -/
  flags : List Char
  /-- The least number of characters. -/
  width : Amount
  /-- The precision. -/
  precision : Amount
  /-- What kind of value it is. -/
  conversion : Char
  deriving DecidableEq, Repr

/-- A part of a format. -/
inductive Directive where
  /-- Bytes to write. -/
  | bytes (bs : List UInt8)
  /-- A value to write. -/
  | field (f : Field)
  /-- A mistake, which ends the output. -/
  | fault (message : String)
  deriving DecidableEq, Repr

/-- Reads how wide or precise a value is. -/
def readAmount (cs : List Char) : Amount × List Char :=
  match cs with
  | '*' :: rest => (.argument, rest)
  | cs =>
    let ds := cs.takeWhile isDigit
    (if ds.isEmpty then .unsaid else .given (Decimal.natOfDigits ds), cs.dropWhile isDigit)

/-- Reads a field after its percent sign. -/
def readField (cs : List Char) : Directive × List Char :=
  let flags := cs.takeWhile "-+ 0#".toList.contains
  let (width, rest) := readAmount (cs.drop flags.length)
  let (precision, rest) := match rest with
    | '.' :: rest =>
      let (precision, rest) := readAmount rest
      (if precision = .unsaid then .given 0 else precision, rest)
    | rest => (.unsaid, rest)
  match rest with
  | [] => (.fault "missing format character", [])
  | c :: left =>
    if "sdiouxXcbeEfFgG".toList.contains c then (.field ⟨flags, width, precision, c⟩, left)
    else
      let text := cs.take (cs.length - left.length)
      (.fault (String.ofList ('%' :: text) ++ ": invalid directive"), [])

/-- Reads a format; `fuel` is more than its length. -/
def readFormat : (fuel : Nat) → List Char → List Directive
  | 0, _ => []
  | _ + 1, [] => []
  | fuel + 1, '\\' :: rest =>
    let (b, rest) := (escape? false rest).getD (92, rest)
    .bytes [b] :: readFormat fuel rest
  | fuel + 1, '%' :: '%' :: rest => .bytes [37] :: readFormat fuel rest
  | fuel + 1, '%' :: rest =>
    let (directive, rest) := readField rest
    directive :: readFormat fuel rest
  | fuel + 1, c :: rest => .bytes (Utf8.encode (String.singleton c)) :: readFormat fuel rest

/-! ## Numbers -/

/-- What is wrong with an argument that should be a number. -/
inductive ArgFault where
  /-- It does not begin with a number. -/
  | notNumber
  /-- It goes on after the number. -/
  | notAll
  /-- It is too large. -/
  | outOfRange
  deriving DecidableEq, Repr

/-- How the fault is told. -/
def ArgFault.text : ArgFault → String
  | .notNumber => "expected numeric value"
  | .notAll => "not completely converted"
  | .outOfRange => "Numerical result out of range"

/-- The sign of a number in front of its digits, which blanks may stand before. -/
def splitSign (cs : List Char) : Bool × List Char :=
  match trimStart cs with
  | '-' :: ds => (true, ds)
  | '+' :: ds => (false, ds)
  | ds => (false, ds)

/-- The first byte of a text. -/
def firstByte (cs : List Char) : Nat :=
  ((Utf8.encode (String.ofList (cs.take 1))).head?.map UInt8.toNat).getD 0

/-- The whole number that an argument is, and what is wrong with it.  A number with a sign has 64
bits, one without lies below the next power of two, and counts down from there if it is negative. -/
def wholeArg (signed : Bool) (arg : String) : Int × Option ArgFault :=
  match arg.toList with
  | [] => (0, none)
  | '\'' :: rest | '"' :: rest => (firstByte rest, none)
  | cs =>
    let (negative, digits) := splitSign cs
    if digits.head?.all (fun c => !isDigit c) then (0, some .notNumber)
    else
      let (n, rest) := splitNumber digits
      let exact : Int := if negative then -(n : Int) else n
      let inRange := if signed then exact = clamp64 exact else n < twoTo 64
      let value := if signed then clamp64 exact else if inRange then exact % twoTo 64 else twoTo 64 - 1
      (value, if !rest.isEmpty then some .notAll else if inRange then none else some .outOfRange)

/-- The number that an argument is, and what is wrong with it. -/
def realArg (arg : String) : Binary64 × Option ArgFault :=
  match arg.toList with
  | [] => (Binary64.ofInt 0, none)
  | '\'' :: rest | '"' :: rest => (Binary64.ofInt (firstByte rest), none)
  | cs =>
    match (Decimal.readFloat? (trimStart cs)).bind Decimal.Reading.finite? with
    | some x => (x, none)
    | none =>
      let (negative, digits) := splitSign cs
      let (whole, fraction, _) := Decimal.splitMantissa digits
      if whole.isEmpty && fraction.isEmpty then (Binary64.ofInt 0, some .notNumber)
      else
        ((Binary64.ofDecimal? negative (Decimal.natOfDigits (whole ++ fraction))
          (-(fraction.length : Int))).getD (Binary64.ofInt 0), some .notAll)

/-- A number written in a base from 2 to 16. -/
def digitsIn (base : Nat) (upper : Bool) (n : Nat) : List Char :=
  let ds := Nat.toDigits base n
  if upper then ds.map Char.toUpper else ds

/-- A number of units of ten to a negative power, written with so many places. -/
def withPlaces (places n : Nat) : List Char :=
  let ds := Nat.toDigits 10 n
  let ds := List.replicate (places + 1 - ds.length) '0' ++ ds
  let whole := ds.take (ds.length - places)
  if places = 0 then whole else whole ++ '.' :: ds.drop whole.length

/-- The quotient of two numbers with so many places. -/
def fixedDigits (places num den : Nat) : List Char :=
  withPlaces places (Binary64.roundHalfEven (num * tenTo places) den)

/-- The digits of a quotient with one digit before the point and so many after it, and its power of
ten. -/
def leadingDigits (places num den : Nat) : List Char × Int :=
  if num = 0 then (withPlaces places 0, 0)
  else
    let lead := Binary64.leadingExponent num den
    let at_ (e : Int) : Nat :=
      let scale := (places : Int) - e
      Binary64.roundHalfEven (num * tenTo scale.toNat) (den * tenTo (-scale).toNat)
    let n := at_ lead
    if n < tenTo (places + 1) then (withPlaces places n, lead)
    else (withPlaces places (at_ (lead + 1)), lead + 1)

/-- A power of ten behind a number. -/
def powerText (e : Int) : List Char :=
  let ds := Nat.toDigits 10 e.natAbs
  ['e', if e < 0 then '-' else '+'] ++ List.replicate (2 - ds.length) '0' ++ ds

/-- Digits without the zeros after the point that say nothing. -/
def dropPlaces (cs : List Char) : List Char :=
  if cs.contains '.' then
    match cs.reverse.dropWhile (· == '0') with
    | '.' :: rest => rest.reverse
    | rest => rest.reverse
  else cs

/-- The digits of a number without its sign, by the kind of the field. -/
def realDigits (conversion : Char) (precision : Option Nat) (x : Binary64) : List Char :=
  let num := x.units
  let den := twoTo Binary64.unitExponent
  let places := precision.getD 6
  let powered (places : Nat) (tidy : List Char → List Char) : List Char :=
    let (ds, e) := leadingDigits places num den
    tidy ds ++ powerText e
  let cs := match conversion.toLower with
    | 'f' => fixedDigits places num den
    | 'e' => powered places id
    | _ =>
      let p := max places 1
      let (_, e) := leadingDigits (p - 1) num den
      if -4 ≤ e && e < p then dropPlaces (fixedDigits ((p : Int) - 1 - e).toNat num den)
      else powered (p - 1) dropPlaces
  if conversion.isUpper then cs.map Char.toUpper else cs

/-! ## Output -/

/-- Pads bytes to a width. -/
def padBytes (flags : List Char) (width : Nat) (zeros : Bool) (sign bytes : List UInt8) :
    List UInt8 :=
  let missing := width - (sign.length + bytes.length)
  if flags.contains '-' then sign ++ bytes ++ List.replicate missing 32
  else if zeros && flags.contains '0' then sign ++ List.replicate missing 48 ++ bytes
  else List.replicate missing 32 ++ sign ++ bytes

/-- What is written before the digits of a number. -/
def signOf (flags : List Char) (negative : Bool) : List UInt8 :=
  if negative then [45] else if flags.contains '+' then [43]
  else if flags.contains ' ' then [32] else []

/-- The bytes of a value laid out, what is wrong with it, and whether the output goes on. -/
def fieldBytes (field : Field) (flags : List Char) (width : Nat) (precision : Option Nat)
    (arg : String) : List UInt8 × Option ArgFault × Bool :=
  let ascii (cs : List Char) := Utf8.encode (String.ofList cs)
  let cut (bytes : List UInt8) : List UInt8 := (precision.map bytes.take).getD bytes
  let precise (ds : List Char) : List UInt8 :=
    ascii (List.replicate ((precision.getD 0) - ds.length) '0' ++ ds)
  match field.conversion with
  | 's' => (padBytes flags width false [] (cut (Utf8.encode arg)), none, true)
  | 'c' => (padBytes flags width false [] ((Utf8.encode arg).take 1), none, true)
  | 'b' =>
    let (bytes, goesOn) := unescape true (arg.length + 1) arg.toList
    (padBytes flags width false [] (cut bytes), none, goesOn)
  | c =>
    if "diouxX".toList.contains c then
      let (n, fault) := wholeArg (c = 'd' || c = 'i') arg
      let size := n.toNat
      let marked := flags.contains '#' && size != 0
      let (sign, digits) : List UInt8 × List UInt8 := match c with
        | 'o' => ([], precise ((if marked then ['0'] else []) ++ digitsIn 8 false size))
        | 'x' => (if marked then ascii ['0', 'x'] else [], precise (digitsIn 16 false size))
        | 'X' => (if marked then ascii ['0', 'X'] else [], precise (digitsIn 16 true size))
        | 'u' => ([], precise (digitsIn 10 false size))
        | _ => (signOf flags (n < 0), precise (digitsIn 10 false n.natAbs))
      (padBytes flags width precision.isNone sign digits, fault, true)
    else
      let (x, fault) := realArg arg
      (padBytes flags width true (signOf flags x.negative) (ascii (realDigits c precision x)),
        fault, true)

/-- What has been written so far. -/
structure Formatted where
  /-- The bytes. -/
  bytes : List UInt8
  /-- The arguments that are left. -/
  left : List String
  /-- What is wrong with arguments, each with its text, the last one first. -/
  faults : List String
  /-- A mistake that has ended the output. -/
  broken : Option String
  /-- Whether the output goes on. -/
  goesOn : Bool

/-- Takes the argument that says how wide or precise a value is. -/
def Formatted.take (f : Formatted) : Amount → Option Int × Formatted
  | .unsaid => (none, f)
  | .given n => (some n, f)
  | .argument => (some (wholeArg true (f.left.head?.getD "")).1, { f with left := f.left.drop 1 })

/-- Writes a part of a format. -/
def Formatted.add (f : Formatted) (directive : Directive) : Formatted :=
  if !f.goesOn then f
  else match directive with
    | .bytes bs => { f with bytes := f.bytes ++ bs }
    | .fault message => { f with broken := some message, goesOn := false }
    | .field field =>
      let (width, f) := f.take field.width
      let (precision, f) := f.take field.precision
      let flags := if width.any (· < 0) then '-' :: field.flags else field.flags
      let arg := f.left.head?.getD ""
      let precision := (precision.filter (0 ≤ ·)).map Int.toNat
      let (bytes, fault, goesOn) := fieldBytes field flags (width.getD 0).natAbs precision arg
      { f with
        bytes := f.bytes ++ bytes
        left := f.left.drop 1
        faults := (fault.map (fun x => arg ++ ": " ++ x.text)).toList ++ f.faults
        goesOn }

/-- Uses a format again as long as it takes arguments and some are left; `fuel` is more than their
number. -/
def formatAll (format : List Directive) : (fuel : Nat) → Formatted → Formatted
  | 0, f => f
  | fuel + 1, f =>
    let after := format.foldl Formatted.add f
    if after.left.isEmpty || after.left.length = f.left.length || !after.goesOn then after
    else formatAll format fuel after

/-- What `printf` writes, what is wrong with its arguments, and a mistake in the format. -/
def formatBytes (format : String) (args : List String) :
    List UInt8 × List String × Option String :=
  let done := formatAll (readFormat (format.length + 1) format.toList) (args.length + 1)
    ⟨[], args, [], none, true⟩
  (done.bytes, done.faults.reverse, done.broken)

end Runbook.Shell
