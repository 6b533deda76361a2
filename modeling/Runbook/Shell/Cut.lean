import Runbook.Number.Decimal
import Runbook.Shell.CallOptions

/-!
# The program that takes parts of lines

* `PlaceRange.readAll` reads a list of places such as `1,3-4,6-`;
* `cut` takes the bytes or the fields at such places from each line.
-/

namespace Runbook.Shell

namespace Utility

/-- The options of `cut`. -/
def cutOptions : OptionSet where
  flags := "nszC"
  valued := "bcdfO"
  optional := ""
  words := [("bytes", 'b'), ("characters", 'c'), ("delimiter", 'd'), ("fields", 'f'),
    ("only-delimited", 's'), ("zero-terminated", 'z'), ("complement", 'C'),
    ("output-delimiter", 'O')]

/-- Why a list of places or the options cannot be read. -/
inductive CutFault where
  /-- There is no list. -/
  | noList
  /-- There are several lists. -/
  | severalLists
  /-- Fields are separated by one character. -/
  | longMark
  /-- Bytes are not separated. -/
  | needlessMark
  /-- Lines of bytes are not left out. -/
  | needlessOmission
  /-- A range has no end. -/
  | noEnd
  /-- A range ends before it begins. -/
  | falling
  /-- A range has two hyphens. -/
  | twoHyphens (fields : Bool)
  /-- Places are counted from one. -/
  | zero (fields : Bool)
  /-- A text is no place. -/
  | noPlace (fields : Bool) (text : String)
  /-- A place is too large. -/
  | tooLarge (fields : Bool) (text : String)
  deriving DecidableEq, Repr

/-- How the fault is told. -/
def CutFault.message : CutFault → String
  | .noList => "you must specify a list of bytes, characters, or fields"
  | .severalLists => "only one list may be specified"
  | .longMark => "the delimiter must be a single character"
  | .needlessMark => "an input delimiter may be specified only when operating on fields"
  | .needlessOmission =>
    "suppressing non-delimited lines makes sense\n\tonly when operating on fields"
  | .noEnd => "invalid range with no endpoint: -"
  | .falling => "invalid decreasing range"
  | .twoHyphens fields =>
    if fields then "invalid field range" else "invalid byte or character range"
  | .zero fields =>
    if fields then "fields are numbered from 1"
    else "byte/character positions are numbered from 1"
  | .noPlace fields text =>
    if fields then s!"invalid field value '{text}'"
    else s!"invalid byte/character position '{text}'"
  | .tooLarge fields text =>
    if fields then s!"field number '{text}' is too large"
    else s!"byte/character offset '{text}' is too large"

/-- A range of places, counted from one; without a last place it goes on to the end. -/
structure PlaceRange where
  /-- The first place. -/
  first : Nat
  /-- The last place. -/
  last : Option Nat
  deriving DecidableEq, Repr

namespace PlaceRange

/-- Whether a place lies in the range. -/
def has (range : PlaceRange) (place : Nat) : Bool := range.first ≤ place && range.last.all (place ≤ ·)

/-- A place, unless it is too large. -/
def readPlace (fields : Bool) (ds : List Char) : Except CutFault Nat :=
  let n := Decimal.natOfDigits ds
  if twoTo 64 - 1 ≤ n then .error (.tooLarge fields (String.ofList ds)) else .ok n

/-- Whether a character ends an item of a list. -/
def endsItem (c : Char) : Bool := c = ',' || c = ' ' || c = '\t'

/-- Reads the range that a list begins with. -/
def read (fields : Bool) (cs : List Char) : Except CutFault (PlaceRange × List Char) := do
  let ds := cs.takeWhile Decimal.isDigit
  let n ← readPlace fields ds
  match cs.drop ds.length with
  | '-' :: rest =>
    if !ds.isEmpty && n = 0 then throw (.zero fields)
    let es := rest.takeWhile Decimal.isDigit
    let first := if ds.isEmpty then 1 else n
    let last ← readPlace fields es
    let left := rest.drop es.length
    if left.head? = some '-' then throw (.twoHyphens fields)
    if left.head?.any (!endsItem ·) then throw (.noPlace fields (String.ofList left))
    if ds.isEmpty && es.isEmpty then throw .noEnd
    if es.isEmpty then return (⟨first, none⟩, left)
    if last < first then throw .falling
    return (⟨first, some last⟩, left)
  | left =>
    if left.head?.any (!endsItem ·) then throw (.noPlace fields (String.ofList left))
    if n = 0 then throw (.zero fields)
    return (⟨n, some n⟩, left)

/-- Reads the ranges of a list; `fuel` is more than its length. -/
def readFrom (fields : Bool) : (fuel : Nat) → List Char → Except CutFault (List PlaceRange)
  | 0, _ => .ok []
  | fuel + 1, cs => do
    let (range, left) ← read fields cs
    match left with
    | [] => return [range]
    | _ :: rest => return range :: (← readFrom fields fuel rest)

/-- Reads the ranges of a list. -/
def readAll (fields : Bool) (text : String) : Except CutFault (List PlaceRange) :=
  readFrom fields (text.length + 2) text.toList

/-- Joins ranges that have places in common with the one before; their first places rise. -/
def joined : PlaceRange → List PlaceRange → List PlaceRange
  | range, [] => [range]
  | range, next :: rest =>
    if range.last.all (next.first ≤ ·) then
      let last := match range.last, next.last with
        | some a, some b => some (max a b)
        | _, _ => none
      joined ⟨range.first, last⟩ rest
    else range :: joined next rest

end PlaceRange

/-- What is taken from lines. -/
structure Taken where
  /-- The ranges, in order. -/
  ranges : List PlaceRange
  /-- Whether all other places are taken. -/
  isComplement : Bool

/-- The number of the range that a place lies in, if it is taken. -/
def Taken.rangeOf? (taken : Taken) (place : Nat) : Option Nat :=
  match taken.ranges.findIdx? (·.has place), taken.isComplement with
  | some n, false => some n
  | none, true => some ((taken.ranges.filter (·.first < place)).length)
  | _, _ => none

/-- The items at the places that are taken. -/
def Taken.items {α : Type} (taken : Taken) (items : List α) : List (Nat × α) :=
  (items.zip (List.range' 1 items.length)).filterMap (fun (item, place) =>
    (taken.rangeOf? place).map (·, item))

/-- Splits bytes at a mark. -/
def splitAt (mark : UInt8) (bytes : List UInt8) : List (List UInt8) :=
  let (part, parts) := bytes.foldr (fun b (acc : List UInt8 × List (List UInt8)) =>
    if b = mark then ([], acc.1 :: acc.2) else (b :: acc.1, acc.2)) ([], [])
  part :: parts

/-- The bytes that are taken from a line, with a text between ranges. -/
def takenBytes (taken : Taken) (between : List UInt8) (line : List UInt8) : List UInt8 :=
  ((taken.items line).foldl (fun (acc : Option Nat × List (List UInt8)) (range, b) =>
    let parts := if acc.1.any (· != range) then between :: acc.2 else acc.2
    (some range, [b] :: parts)) (none, [])).2.reverse.flatten

/-- The fields that are taken from a line; a line without a mark is taken whole, unless it is left
out. -/
def takenFields (taken : Taken) (mark : UInt8) (between : List UInt8) (omits : Bool)
    (line : List UInt8) : Option (List UInt8) :=
  let fields := splitAt mark line
  if fields.length = 1 then if omits then none else some line
  else some (between.intercalate ((taken.items fields).map (·.2)))

/-- What the options ask to take from lines, and whether it is fields. -/
def takenBy (p : Parted) : Except CutFault (Taken × Bool) := do
  let lists := (p.options.filter (fun (c, _) => c = 'b' || c = 'c' || c = 'f')).map (·.2)
  let fields := p.has 'f'
  match lists with
  | [] => throw .noList
  | [list] =>
    let mark := Utf8.encode ((p.arg? 'd').getD "")
    if 1 < mark.length then throw .longMark
    if !fields && p.has 'd' then throw .needlessMark
    if !fields && p.has 's' then throw .needlessOmission
    let ranges ← PlaceRange.readAll fields list
    match ranges.mergeSort (fun a b => a.first ≤ b.first) with
    | [] => return (⟨[], p.has 'C'⟩, fields)
    | first :: more => return (⟨PlaceRange.joined first more, p.has 'C'⟩, fields)
  | _ => throw .severalLists

/-- Takes parts of lines. -/
def cut : Utility := fun call m =>
  match cutOptions.read call.args with
  | .error fault => refuse call m fault.message
  | .ok p =>
    match takenBy p with
    | .error fault => refuse call m fault.message
    | .ok (taken, fields) =>
      let (parts, fine, m) := readOperands call (orInput p.operands) m
      let ending : UInt8 := if p.has 'z' then 0 else 10
      let lines := parts.flatMap (fun (_, bytes) =>
        let lines := splitAt ending bytes
        if lines.getLast? = some [] then lines.dropLast else lines)
      let given := (p.arg? 'd').map Utf8.encode
      let mark := (given.map (fun bytes => bytes.head?.getD 0)).getD 9
      let between := (p.arg? 'O').map Utf8.encode
      let out := lines.filterMap (fun line =>
        if fields then takenFields taken mark (between.getD [mark]) (p.has 's') line
        else some (takenBytes taken (between.getD []) line))
      (codeOf fine, m.writeTo call.fds 1 (out.flatMap (· ++ [ending])))

end Utility

end Runbook.Shell
