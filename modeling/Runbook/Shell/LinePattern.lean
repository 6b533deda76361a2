import Runbook.Number.Decimal
import Runbook.Shell.Wildcard

/-!
# Line patterns

The patterns that programs look for in lines.  They are written in two ways: in the basic one, most
operators need a backslash; in the extended one, a backslash takes their meaning away.

* `LinePattern` is a pattern, `PatternStyle` is how one is written;
* `LinePattern.read` reads a pattern, or tells by a `PatternFault` why a text is none.
-/

namespace Runbook.Shell

/-- A condition on a place between two characters. -/
inductive Between where
  /-- The start of the text. -/
  | textStart
  /-- The end of the text. -/
  | textEnd
  /-- The start of the text, or of a line if lines count. -/
  | lineStart
  /-- The end of the text, or of a line if lines count. -/
  | lineEnd
  /-- A word begins. -/
  | wordStart
  /-- A word ends. -/
  | wordEnd
  /-- A word begins or ends. -/
  | wordEdge
  /-- No word begins or ends. -/
  | noWordEdge
  /-- No character of a word stands before. -/
  | noWordBefore
  /-- No character of a word follows. -/
  | noWordAfter
  deriving DecidableEq, Repr

/-- A pattern. -/
inductive LinePattern where
  /-- The empty text. -/
  | empty
  /-- Any character. -/
  | any
  /-- A character of a set, or none of the set. -/
  | set (isNegated : Bool) (ranges : List BracketRange)
  /-- The empty text where a condition holds. -/
  | place (condition : Between)
  /-- A match that is remembered under a number. -/
  | group (number : Nat) (body : LinePattern)
  /-- The text that is remembered under a number. -/
  | again (number : Nat)
  /-- A number of matches in a row. -/
  | count (least : Nat) (most : Option Nat) (body : LinePattern)
  /-- One after the other. -/
  | both (first second : LinePattern)
  /-- One or the other. -/
  | either (left right : LinePattern)
  deriving DecidableEq, Repr

/-- How a pattern is written. -/
structure PatternStyle where
  /-- Whether operators need no backslash. -/
  extended : Bool
  /-- Whether what cannot be an operator where it stands is none, where others see a mistake. -/
  lenient : Bool
  deriving DecidableEq, Repr

/-- Why a text is no pattern. -/
inductive PatternFault where
  /-- A set is not closed. -/
  | openSet
  /-- A bracket is not closed. -/
  | openGroup
  /-- A bracket was not opened. -/
  | closedGroup
  /-- A brace is not closed. -/
  | openCount
  /-- There is something else than numbers between braces. -/
  | badCount
  /-- The numbers between braces fall. -/
  | badOrder
  /-- A number between braces is too large. -/
  | largeCount
  /-- A range ends before it begins. -/
  | badRange
  /-- There is no such set. -/
  | unknownSet
  /-- There is nothing to repeat. -/
  | nothingToRepeat
  /-- Nothing follows a backslash. -/
  | openEscape
  /-- Nothing is remembered under a number. -/
  | unknownGroup
  deriving DecidableEq, Repr

/-- How the fault is told. -/
def PatternFault.message : PatternFault → String
  | .openSet => "Unmatched [, [^, [:, [., or [="
  | .openGroup => "Unmatched ( or \\("
  | .closedGroup => "Unmatched ) or \\)"
  | .openCount => "Unmatched \\\x7b"
  | .badCount | .badOrder => "Invalid content of \\\x7b\\\x7d"
  | .largeCount => "Regular expression too big"
  | .badRange => "Invalid range end"
  | .unknownSet => "Invalid character class name"
  | .nothingToRepeat => "Invalid preceding regular expression"
  | .openEscape => "Trailing backslash"
  | .unknownGroup => "Invalid back reference"

namespace LinePattern

/-- A character that stands for itself. -/
def char (c : Char) : LinePattern := .set false [(c, c)]

/-- A text that stands for itself. -/
def text (cs : List Char) : LinePattern := cs.foldr (fun c rest => .both (char c) rest) .empty

/-- The number of the last match that is remembered. -/
def groups : LinePattern → Nat
  | .group number body => max number body.groups
  | .count _ _ body => body.groups
  | .both first second => max first.groups second.groups
  | .either left right => max left.groups right.groups
  | .empty | .any | .set _ _ | .place _ | .again _ => 0

/-! ## Sets -/

/-- The characters of words. -/
def wordRanges : List BracketRange := [('a', 'z'), ('A', 'Z'), ('0', '9'), ('_', '_')]

/-- The characters of a set between brackets that has a name. -/
def namedRanges? (name : String) : Option (List BracketRange) :=
  match name with
  | "cntrl" => some [('\x00', '\x1f'), ('\x7f', '\x7f')]
  | "graph" => some [('!', '~')]
  | "print" => some [(' ', '~')]
  | name => namedSet? name

/-- Reads an item of a set that has brackets of its own, after the opening one: the text between
two marks. -/
def readMarked (mark : Char) : List Char → Except PatternFault (List Char × List Char)
  | [] | [_] => .error .openSet
  | c :: d :: rest =>
    if c = mark && d = ']' then .ok ([], rest)
    else do
      let (text, rest) ← readMarked mark (d :: rest)
      return (c :: text, rest)

/-- Reads one character of a set, which may have brackets of its own. -/
def readSetChar : List Char → Except PatternFault (Char × List Char)
  | '[' :: '.' :: rest => do
    let (text, rest) ← readMarked '.' rest
    match text with
    | [c] => return (c, rest)
    | _ => throw .unknownSet
  | '[' :: '=' :: rest => do
    let (text, rest) ← readMarked '=' rest
    match text with
    | [c] => return (c, rest)
    | _ => throw .unknownSet
  | c :: rest => .ok (c, rest)
  | [] => .error .openSet

/-- Reads the items of a set up to its closing bracket, which is an item if it comes first.  `fuel`
is more than the length of the text. -/
def readSetItems : (fuel : Nat) → (first : Bool) → List Char →
    Except PatternFault (List BracketRange × List Char)
  | 0, _, _ => .error .openSet
  | fuel + 1, first, cs =>
    match cs with
    | [] => .error .openSet
    | '[' :: ':' :: rest => do
      let (name, rest) ← readMarked ':' rest
      match namedRanges? (String.ofList name) with
      | none => throw .unknownSet
      | some ranges =>
        let (more, rest) ← readSetItems fuel false rest
        return (ranges ++ more, rest)
    | c :: rest =>
      if c = ']' && !first then .ok ([], rest)
      else do
        let (low, rest) ← readSetChar (c :: rest)
        match rest with
        | '-' :: ']' :: _ =>
          let (more, rest) ← readSetItems fuel false rest
          return ((low, low) :: more, rest)
        | '-' :: d :: rest =>
          let (high, rest) ← readSetChar (d :: rest)
          if high < low then throw .badRange
          let (more, rest) ← readSetItems fuel false rest
          return ((low, high) :: more, rest)
        | rest =>
          let (more, rest) ← readSetItems fuel false rest
          return ((low, low) :: more, rest)

/-- Reads a set after its opening bracket. -/
def readSet (cs : List Char) : Except PatternFault (LinePattern × List Char) := do
  let isNegated := cs.head? = some '^'
  let cs := if isNegated then cs.drop 1 else cs
  let (ranges, rest) ← readSetItems (cs.length + 1) true cs
  return (.set isNegated ranges, rest)

/-! ## Operators -/

/-- What stands next in a pattern. -/
inductive Sign where
  /-- The bracket that begins a group. -/
  | opening
  /-- The bracket that ends a group. -/
  | closing
  /-- The sign between alternatives. -/
  | bar
  /-- A sign that repeats what stands before it so often. -/
  | repeating (least : Nat) (most : Option Nat)
  /-- The brace before the numbers that say how often something is repeated. -/
  | brace
  /-- A character, after a backslash or not. -/
  | char (c : Char) (isEscaped : Bool)
  deriving DecidableEq, Repr

/-- What an operator means. -/
def operator? (c : Char) : Option Sign :=
  match c with
  | '(' => some .opening
  | ')' => some .closing
  | '|' => some .bar
  | '+' => some (.repeating 1 none)
  | '?' => some (.repeating 0 (some 1))
  | '\x7b' => some .brace
  | _ => none

/-- The next sign of a pattern, and the rest. -/
def nextSign? (extended : Bool) : List Char → Option (Sign × List Char)
  | [] => none
  | ['\\'] => some (.char '\\' true, [])
  | '\\' :: c :: rest =>
    match operator? c, extended with
    | some sign, false => some (sign, rest)
    | _, _ => some (.char c true, rest)
  | '*' :: rest => some (.repeating 0 none, rest)
  | c :: rest =>
    match operator? c, extended with
    | some sign, true => some (sign, rest)
    | _, _ => some (.char c false, rest)

/-- The largest number between braces. -/
def mostRepeats : Nat := 32767

/-- Reads the numbers after a brace, and the brace that closes them. -/
def readCount (extended : Bool) (cs : List Char) :
    Except PatternFault ((Nat × Option Nat) × List Char) :=
  let ds := cs.takeWhile Decimal.isDigit
  let cs := cs.drop ds.length
  let hasComma := cs.head? = some ','
  let cs := if hasComma then cs.drop 1 else cs
  let es := if hasComma then cs.takeWhile Decimal.isDigit else ds
  let cs := if hasComma then cs.drop es.length else cs
  let least := Decimal.natOfDigits ds
  let most := if es.isEmpty then none else some (Decimal.natOfDigits es)
  let closed := match cs with
    | '\x7d' :: rest => if extended then some rest else none
    | '\\' :: '\x7d' :: rest => if extended then none else some rest
    | _ => none
  match closed with
  | none => .error (if cs.isEmpty then .openCount else .badCount)
  | some rest =>
    if ds.isEmpty && !hasComma then .error .badCount
    else if most.any (· < least) then .error .badOrder
    else if mostRepeats < max least (most.getD 0) then .error .largeCount
    else .ok ((least, most), rest)

/-- What a character means after a backslash. -/
def escaped? (c : Char) : Option LinePattern :=
  match c with
  | '<' => some (.place .wordStart)
  | '>' => some (.place .wordEnd)
  | 'b' => some (.place .wordEdge)
  | 'B' => some (.place .noWordEdge)
  | '\x60' => some (.place .textStart)
  | '\'' => some (.place .textEnd)
  | 'w' => some (.set false wordRanges)
  | 'W' => some (.set true wordRanges)
  | 's' => some (.set false [(' ', ' '), ('\t', '\r')])
  | 'S' => some (.set true [(' ', ' '), ('\t', '\r')])
  | _ => none

/-- Whether something cannot be repeated: a sign after it begins something new. -/
def isPlace : LinePattern → Bool
  | .place _ => true
  | _ => false

/-! ## Reading -/

/-- The groups of a pattern, as far as it has been read. -/
structure Groups where
  /-- How many have begun. -/
  begun : Nat
  /-- The numbers of those that have ended. -/
  ended : List Nat

/-- Reads a part of a pattern. -/
abbrev PartReader := Groups → List Char → Except PatternFault (LinePattern × Groups × List Char)

/-- Reads the signs that repeat something; `fuel` is more than the length of the text. -/
def readRepeats (style : PatternStyle) : (fuel : Nat) → LinePattern → List Char →
    Except PatternFault (LinePattern × List Char)
  | 0, body, cs => .ok (body, cs)
  | fuel + 1, body, cs =>
    match nextSign? style.extended cs with
    | some (.repeating least most, rest) =>
      readRepeats style fuel (.count least most body) rest
    | some (.brace, rest) =>
      match readCount style.extended rest with
      | .ok ((least, most), rest) => readRepeats style fuel (.count least most body) rest
      | .error fault =>
        if style.extended && style.lenient && (fault = .openCount || fault = .badCount) then
          .ok (body, cs)
        else .error fault
    | _ => .ok (body, cs)

/-- What a character means that no backslash stands before; `start` says that a branch begins. -/
def readPlain (style : PatternStyle) (start : Bool) (c : Char) (rest : List Char) :
    Except PatternFault (LinePattern × List Char) :=
  match c with
  | '[' => readSet rest
  | '.' => .ok (.any, rest)
  | '^' => .ok (if style.extended || start then .place .lineStart else char c, rest)
  | '$' =>
    let ends := match nextSign? false rest with
      | none | some (.bar, _) | some (.closing, _) => true
      | _ => false
    .ok (if style.extended || ends then .place .lineEnd else char c, rest)
  | c => .ok (char c, rest)

mutual

/-- Reads alternatives; `depth` says how many groups they are in, and `fuel` is more than twice the
length of the text. -/
def readBranches (style : PatternStyle) : (fuel : Nat) → (depth : Nat) → PartReader
  | 0, _, _, _ => .error .openGroup
  | fuel + 1, depth, groups, cs => do
    let (left, groups, cs) ← readBranch style fuel depth true groups cs
    match nextSign? style.extended cs with
    | some (.bar, rest) =>
      let (right, groups, cs) ← readBranches style fuel depth groups rest
      return (.either left right, groups, cs)
    | _ => return (left, groups, cs)

/-- Reads a branch. -/
def readBranch (style : PatternStyle) : (fuel : Nat) → (depth : Nat) → (start : Bool) → PartReader
  | 0, _, _, _, _ => .error .openGroup
  | fuel + 1, depth, start, groups, cs => do
    let andMore (first : LinePattern) (groups : Groups) (rest : List Char) :
        Except PatternFault (LinePattern × Groups × List Char) := do
      let (body, rest) ← if isPlace first then .ok (first, rest)
        else readRepeats style (rest.length + 1) first rest
      let (more, groups, rest) ← readBranch style fuel depth false groups rest
      return (.both body more, groups, rest)
    match nextSign? style.extended cs with
    | none | some (.bar, _) => return (.empty, groups, cs)
    | some (.closing, rest) =>
      if 0 < depth then return (.empty, groups, cs)
      else if style.extended && style.lenient then andMore (char ')') groups rest
      else throw .closedGroup
    | some (.opening, rest) =>
      let number := groups.begun + 1
      let (body, groups, rest) ←
        readBranches style fuel (depth + 1) { groups with begun := number } rest
      match nextSign? style.extended rest with
      | some (.closing, rest) =>
        andMore (.group number body) { groups with ended := number :: groups.ended } rest
      | _ => throw .openGroup
    | some (.repeating _ _, rest) =>
      if !style.extended then
        andMore (char (((cs.take (cs.length - rest.length)).getLast?).getD '*')) groups rest
      else if style.lenient then readBranch style fuel depth false groups rest
      else throw .nothingToRepeat
    | some (.brace, rest) =>
      if style.lenient then andMore (char '\x7b') groups rest else throw .nothingToRepeat
    | some (.char c true, rest) =>
      match escaped? c with
      | some part => andMore part groups rest
      | none =>
        if c = '\\' && cs.length = 1 then throw .openEscape
        else if '1' ≤ c && c ≤ '9' then
          let number := c.toNat - '0'.toNat
          if groups.ended.contains number then andMore (.again number) groups rest
          else throw .unknownGroup
        else andMore (char c) groups rest
    | some (.char c false, rest) =>
      let (part, rest) ← readPlain style start c rest
      andMore part groups rest

end

/-- Reads a pattern. -/
def read (style : PatternStyle) (cs : List Char) : Except PatternFault LinePattern := do
  let (pattern, _, _) ← readBranches style (2 * cs.length + 4) 0 ⟨0, []⟩ cs
  return pattern

end LinePattern

end Runbook.Shell
