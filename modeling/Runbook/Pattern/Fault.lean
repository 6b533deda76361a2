import Runbook.Text.Blank

/-!
# Faults in patterns

Why a text is no pattern, and the picture that shows where.

* `Cause.text` words each cause;
* `Fault.text` quotes the pattern with marks under the place at fault; a pattern of several lines
  is quoted with line numbers, and a fault across lines is told in words.
-/

namespace Runbook.Pattern

/-- Why a text is no pattern. -/
inductive Cause where
  /-- An escape that cannot stand in a class. -/
  | classEscape
  /-- A range in a class whose end lies before its start. -/
  | classRange
  /-- A range in a class with an end that is no single character. -/
  | classRangeLiteral
  /-- A class without its closing bracket. -/
  | classUnclosed
  /-- A number too large. -/
  | decimalInvalid
  /-- An escape without digits. -/
  | hexEmpty
  /-- Digits that are no character. -/
  | hexInvalid
  /-- A character that is no digit. -/
  | hexInvalidDigit
  /-- A pattern that ends within an escape. -/
  | escapeEnd
  /-- An unknown escape. -/
  | escapeUnknown
  /-- A minus sign without flags after it. -/
  | flagDangling
  /-- A flag given twice. -/
  | flagDuplicate
  /-- Two minus signs. -/
  | flagRepeatedNegation
  /-- A pattern that ends within flags. -/
  | flagEnd
  /-- An unknown flag. -/
  | flagUnknown
  /-- A group name given twice. -/
  | nameDuplicate
  /-- An empty group name. -/
  | nameEmpty
  /-- A character that cannot stand in a group name. -/
  | nameInvalid
  /-- A group name without its end. -/
  | nameEnd
  /-- A group without its closing parenthesis. -/
  | groupUnclosed
  /-- A closing parenthesis without a group. -/
  | groupUnopened
  /-- A count whose upper end is the smaller. -/
  | countRange
  /-- A count without a number. -/
  | countEmpty
  /-- A count without its closing brace. -/
  | countUnclosed
  /-- A repetition of nothing. -/
  | countMissing
  /-- A word boundary without its closing brace. -/
  | boundaryUnclosed
  /-- An unknown word boundary. -/
  | boundaryUnknown
  /-- A pattern that ends where a word boundary or a count begins. -/
  | boundaryEnd
  /-- Groups and classes in each other, too many deep. -/
  | nestedTooDeep
  /-- A property that cannot be read. -/
  | propertyInvalid
  /-- A reference to a group. -/
  | backreference
  /-- A condition on the text around. -/
  | lookAround
  /-- Something that needs whole characters where bytes are asked for. -/
  | unicodeNotAllowed
  /-- A pattern that could match a part of a character. -/
  | splitsCharacters
  /-- An unknown property. -/
  | propertyUnknown
  /-- An unknown value of a property. -/
  | propertyValueUnknown
  deriving DecidableEq, Repr

/-- The wording of a cause. -/
def Cause.text : Cause → String
  | .classEscape => "invalid escape sequence found in character class"
  | .classRange => "invalid character class range, the start must be <= the end"
  | .classRangeLiteral => "invalid range boundary, must be a literal"
  | .classUnclosed => "unclosed character class"
  | .decimalInvalid => "decimal literal invalid"
  | .hexEmpty => "hexadecimal literal empty"
  | .hexInvalid => "hexadecimal literal is not a Unicode scalar value"
  | .hexInvalidDigit => "invalid hexadecimal digit"
  | .escapeEnd => "incomplete escape sequence, reached end of pattern prematurely"
  | .escapeUnknown => "unrecognized escape sequence"
  | .flagDangling => "dangling flag negation operator"
  | .flagDuplicate => "duplicate flag"
  | .flagRepeatedNegation => "flag negation operator repeated"
  | .flagEnd => "expected flag but got end of regex"
  | .flagUnknown => "unrecognized flag"
  | .nameDuplicate => "duplicate capture group name"
  | .nameEmpty => "empty capture group name"
  | .nameInvalid => "invalid capture group character"
  | .nameEnd => "unclosed capture group name"
  | .groupUnclosed => "unclosed group"
  | .groupUnopened => "unopened group"
  | .countRange => "invalid repetition count range, the start must be <= the end"
  | .countEmpty => "repetition quantifier expects a valid decimal"
  | .countUnclosed => "unclosed counted repetition"
  | .countMissing => "repetition operator missing expression"
  | .boundaryUnclosed =>
    "special word boundary assertion is either unclosed or contains an invalid character"
  | .boundaryUnknown =>
    "unrecognized special word boundary assertion, valid choices are: start, end, start-half or " ++
      "end-half"
  | .boundaryEnd =>
    "found either the beginning of a special word boundary or a bounded repetition on a \\b " ++
      "with an opening brace, but no closing brace"
  | .nestedTooDeep => "exceed the maximum number of nested parentheses/brackets (250)"
  | .propertyInvalid => "invalid Unicode character class"
  | .backreference => "backreferences are not supported"
  | .lookAround => "look-around, including look-ahead and look-behind, is not supported"
  | .unicodeNotAllowed => "Unicode not allowed here"
  | .splitsCharacters => "pattern can match invalid UTF-8"
  | .propertyUnknown => "Unicode property not found"
  | .propertyValueUnknown => "Unicode property value not found"

/-- A stretch of a pattern, from one place to another. -/
structure Span where
  /-- The place before its first character. -/
  start : Nat
  /-- The place after its last character. -/
  stop : Nat
  deriving DecidableEq, Repr

/-- A cause, where it lies, and an earlier place that has to do with it. -/
structure Fault where
  /-- Why the text is no pattern. -/
  cause : Cause
  /-- Where the fault lies. -/
  span : Span
  /-- What it clashes with. -/
  other : Option Span := none
  deriving DecidableEq, Repr

/-- Line and column of a place, both from 0. -/
def position (place : Nat) (cs : List Char) : Nat × Nat :=
  (cs.take place).foldl (fun (line, column) c =>
    if c = '\n' then (line + 1, 0) else (line, column + 1)) (0, 0)

/-- A span as the line it lies on, its first column and the column after its last. -/
structure Notch where
  /-- The line. -/
  line : Nat
  /-- The first column. -/
  first : Nat
  /-- The column after the last. -/
  after : Nat

/-- The marks under a line, from column `at` on. -/
def marksFrom (column : Nat) : List Notch → List Char
  | [] => []
  | n :: rest =>
    let width := max 1 (n.after - n.first)
    List.replicate (n.first - column) ' ' ++ List.replicate width '^' ++
      marksFrom (max column n.first + width) rest

/-- A line number, filled up on the left. -/
def paddedNumber (width n : Nat) : List Char :=
  let digits := (toString n).toList
  List.replicate (width - digits.length) ' ' ++ digits

/-- The lines of the pattern with the marks under them. -/
def quotedLines (width : Nat) (notches : List Notch) : Nat → List (List Char) → List Char
  | _, [] => []
  | i, line :: rest =>
    let here := notches.filter (·.line == i)
    let lead := if width = 0 then "    ".toList else paddedNumber width (i + 1) ++ ": ".toList
    let marks :=
      if here.isEmpty then []
      else List.replicate lead.length ' ' ++ marksFrom 0 here ++ ['\n']
    lead ++ line ++ ['\n'] ++ marks ++ quotedLines width notches (i + 1) rest

/-- The picture of a fault in a pattern, and its wording. -/
def Fault.text (fault : Fault) (pattern : List Char) : String :=
  let spans := (fault.span :: fault.other.toList).mergeSort
    (fun a b => a.start < b.start || (a.start == b.start && a.stop ≤ b.stop))
  let placed := spans.map (fun s => (position s.start pattern, position s.stop pattern))
  let notches := placed.filterMap (fun ((line, column), (lastLine, after)) =>
    if line = lastLine then some (Notch.mk line column after) else none)
  let told := placed.filterMap (fun ((line, column), (lastLine, after)) =>
    if line = lastLine then none
    else some (s!"on line {line + 1} (column {column + 1}) through line {lastLine + 1} " ++
      s!"(column {after})"))
  let count := (lines pattern).length + (if pattern.getLast? = some '\n' then 1 else 0)
  let width := if count ≤ 1 then 0 else (toString count).length
  let picture := String.ofList (quotedLines width notches 0 (lines pattern))
  if pattern.contains '\n' then
    let divider := String.ofList (List.replicate 79 '~')
    let notes := if told.isEmpty then "" else "\n".intercalate told ++ "\n"
    s!"regex parse error:\n{divider}\n{picture}{divider}\n{notes}error: {fault.cause.text}"
  else s!"regex parse error:\n{picture}error: {fault.cause.text}"

end Runbook.Pattern
