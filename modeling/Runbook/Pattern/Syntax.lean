import Runbook.Pattern.Fault
import Runbook.Text.Blank

/-!
# The syntax of patterns

What stands in a pattern, with the places where it stands.  What it means depends on the flags in
force, and is another matter.

* `Atom` is what cannot be taken apart: a character, a class with a name, a condition;
* `ClassBody` is what stands between the brackets of a class;
* `Syntax` is a pattern.
-/

namespace Runbook.Pattern

/-- A character of a pattern. -/
structure Literal where
  /-- Where it stands. -/
  span : Span
  /-- The character. -/
  char : Char
  /-- Whether it is given as a byte, by two digits in base sixteen. -/
  isByte : Bool := false

/-- A class that a letter after a backslash names. -/
inductive LetterClass where
  /-- Digits. -/
  | digits
  /-- Blanks. -/
  | blanks
  /-- The characters of words. -/
  | words
  deriving DecidableEq, Repr

/-- What is asked of the properties of a character. -/
inductive Query where
  /-- A property, category or script. -/
  | name (name : List Char)
  /-- A property with a value. -/
  | value (property value : List Char)
  deriving DecidableEq, Repr

/-- A condition on a place in a text, as it is written. -/
inductive Edge where
  /-- The start of the text, or of a line. -/
  | lineStart
  /-- The end of the text, or of a line. -/
  | lineEnd
  /-- The start of the text. -/
  | textStart
  /-- The end of the text. -/
  | textEnd
  /-- A word begins or ends. -/
  | word
  /-- No word begins or ends. -/
  | noWord
  /-- A word begins. -/
  | wordStart
  /-- A word ends. -/
  | wordEnd
  /-- No word character stands before. -/
  | halfStart
  /-- No word character follows. -/
  | halfEnd
  deriving DecidableEq, Repr

/-- What cannot be taken apart. -/
inductive Atom where
  /-- A character. -/
  | literal (literal : Literal)
  /-- A class that a letter names, or all other characters. -/
  | letter (span : Span) (negated : Bool) (kind : LetterClass)
  /-- The characters with a property, or all others. -/
  | property (span : Span) (negated : Bool) (query : Query)
  /-- A condition. -/
  | edge (span : Span) (kind : Edge)
  /-- Any character. -/
  | dot (span : Span)

/-- Where an atom stands. -/
def Atom.span : Atom → Span
  | .literal l => l.span
  | .letter span _ _ => span
  | .property span _ _ => span
  | .edge span _ => span
  | .dot span => span

/-- An operation on classes. -/
inductive ClassOp where
  /-- What is in both. -/
  | inter
  /-- What is in the first only. -/
  | diff
  /-- What is in one of them only. -/
  | symmDiff
  deriving DecidableEq, Repr

/-- What stands between the brackets of a class. -/
inductive ClassBody where
  /-- Nothing. -/
  | empty (span : Span)
  /-- A character, or a class with a name. -/
  | atom (atom : Atom)
  /-- All characters from one to another. -/
  | range (span : Span) (first last : Literal)
  /-- A class with a name between colons. -/
  | named (span : Span) (negated : Bool) (ranges : Ranges)
  /-- A class in brackets. -/
  | bracket (span : Span) (negated : Bool) (body : ClassBody)
  /-- Two or more items in a row. -/
  | row (span : Span) (items : List ClassBody)
  /-- An operation on two classes. -/
  | op (span : Span) (kind : ClassOp) (left right : ClassBody)

/-- Where what stands in a class stands. -/
def ClassBody.span : ClassBody → Span
  | .empty span => span
  | .atom a => a.span
  | .range span _ _ => span
  | .named span _ _ => span
  | .bracket span _ _ => span
  | .row span _ => span
  | .op span _ _ _ => span

/-- Items in a row; an item alone is no row. -/
def ClassBody.ofItems (start : Nat) : List ClassBody → ClassBody
  | [] => .empty ⟨start, start⟩
  | [item] => item
  | first :: rest => .row ⟨first.span.start, ((rest.getLast?).getD first).span.stop⟩ (first :: rest)

/-- The letters of flags, each with whether it turns its flag on. -/
abbrev FlagLetters := List (Char × Bool)

/-- A pattern. -/
inductive Syntax where
  /-- Nothing. -/
  | empty (span : Span)
  /-- Flags that hold from here on. -/
  | flags (span : Span) (letters : FlagLetters)
  /-- A character, a class with a name, or a condition. -/
  | atom (atom : Atom)
  /-- A class in brackets. -/
  | bracket (span : Span) (negated : Bool) (body : ClassBody)
  /-- A number of matches in a row. -/
  | count (span : Span) (least : Nat) (most : Option Nat) (body : Syntax)
  /-- A group that remembers what it matches. -/
  | capture (span : Span) (body : Syntax)
  /-- A group in which some flags hold. -/
  | group (span : Span) (letters : FlagLetters) (body : Syntax)
  /-- Two or more parts in a row. -/
  | row (span : Span) (parts : List Syntax)
  /-- Two or more alternatives. -/
  | choice (span : Span) (parts : List Syntax)

namespace Syntax

/-- Where a pattern stands. -/
def span : Syntax → Span
  | .empty span => span
  | .flags span _ => span
  | .atom a => a.span
  | .bracket span _ _ => span
  | .count span _ _ _ => span
  | .capture span _ => span
  | .group span _ _ => span
  | .row span _ => span
  | .choice span _ => span

/-- Parts in a row; a part alone is no row. -/
def ofRow (span : Span) : List Syntax → Syntax
  | [] => .empty span
  | [part] => part
  | parts => .row span parts

/-- Alternatives; one alone is no choice. -/
def ofChoice (span : Span) : List Syntax → Syntax
  | [] => .empty span
  | [part] => part
  | parts => .choice span parts

/-- Whether there is something that can be repeated. -/
def isRepeatable : Syntax → Bool
  | .empty _ => false
  | .flags _ _ => false
  | _ => true

end Syntax

end Runbook.Pattern
