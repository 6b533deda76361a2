/-!
# Ranges and blank characters

A character class of a standard is a list of code point ranges in rising order.  The class that most
texts are read with is that of the blank characters.

* `Ranges.has` decides membership, and stops at the first range beyond the character;
* `trim`, `trimStart` and `trimEnd` work on lists of characters; `trimmed` and `trimmedEnd` are the
  first and the last of them on strings;
* `lines` splits at line feeds and drops a carriage return before each.
-/

namespace Runbook

/-- Code point ranges, both ends included, in rising order. -/
abbrev Ranges := List (Nat × Nat)

namespace Ranges

/-- Whether a code point lies in one of the ranges. -/
def hasCode : Ranges → Nat → Bool
  | [], _ => false
  | (low, high) :: rest, n => if n < low then false else n ≤ high || hasCode rest n

/-- Whether a character lies in one of the ranges. -/
def has (r : Ranges) (c : Char) : Bool := r.hasCode c.toNat

end Ranges

/-!
## Blank characters

The blank characters are those with the White_Space property of Unicode: 25 code points, among
them the no-break and the ideographic space.  Trimming removes them at either end.
-/

/-- The code points with the White_Space property. -/
def blankRanges : Ranges :=
  [(0x9, 0xD), (0x20, 0x20), (0x85, 0x85), (0xA0, 0xA0), (0x1680, 0x1680), (0x2000, 0x200A),
    (0x2028, 0x2029), (0x202F, 0x202F), (0x205F, 0x205F), (0x3000, 0x3000)]

/-- Whether a character is blank. -/
def isBlank (c : Char) : Bool := blankRanges.has c

/-- Drops the blanks at the start. -/
def trimStart (cs : List Char) : List Char := cs.dropWhile isBlank

/-- Drops the blanks at the end. -/
def trimEnd : List Char → List Char
  | [] => []
  | c :: rest =>
    match trimEnd rest with
    | [] => if isBlank c then [] else [c]
    | kept => c :: kept

/-- Drops the blanks at both ends. -/
def trim (cs : List Char) : List Char := trimEnd (trimStart cs)

/-- `trim` on a string. -/
def trimmed (s : String) : String := String.ofList (trim s.toList)

/-- `trimEnd` on a string. -/
def trimmedEnd (s : String) : String := String.ofList (trimEnd s.toList)

/-- Whether a string has no character but blanks. -/
def allBlank (s : String) : Bool := s.toList.all isBlank

/-- Splits at every line feed. -/
def splitLines : List Char → List (List Char)
  | [] => [[]]
  | c :: rest =>
    if c = '\n' then [] :: splitLines rest
    else match splitLines rest with
      | [] => [[c]]
      | line :: more => (c :: line) :: more

/-- Drops one carriage return at the end. -/
def dropReturn : List Char → List Char
  | [] => []
  | ['\r'] => []
  | c :: rest => c :: dropReturn rest

/-- The lines of a text.  A line ends at a line feed or at the end of the text; a carriage return
right before the line feed belongs to the line end, and a last empty line is not counted. -/
def lines (cs : List Char) : List (List Char) :=
  let all := splitLines cs
  let ended := all.dropLast.map dropReturn
  match all.getLast? with
  | none | some [] => ended
  | some last => ended ++ [last]

@[simp] theorem trimStart_nil : trimStart [] = [] := rfl

@[simp] theorem trimEnd_nil : trimEnd [] = [] := rfl

end Runbook
