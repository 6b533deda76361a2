import Runbook.Pattern.Meaning
import Runbook.Pattern.Reader
import Runbook.Pattern.Syntax
import Runbook.Pattern.Weight

/-!
# Searching for patterns

* `Syntax.checkNesting` finds the first place where a pattern is nested too deep: groups, counts,
  classes, rows and choices may stand in each other, but not too many deep;
* `Pattern.read` turns a text into the pattern it stands for, or says where and why it is none;
* `Pattern.search` searches a text for a pattern.

A fault of the grammar comes before one of nesting, and that before one of meaning.
-/

namespace Runbook.Pattern

/-! ## Nesting -/

/-- How many parts of a pattern may stand in each other. -/
def nestLimit : Nat := 250

/-- Goes one part deeper, `left` more being allowed. -/
def deeper (left : Nat) (span : Span) (inside : Nat → Except Fault Unit) : Except Fault Unit :=
  match left with
  | 0 => .error ⟨.nestedTooDeep, span, none⟩
  | left + 1 => inside left

mutual

/-- Finds the first part of a class that is nested too deep. -/
def ClassBody.checkNesting : ClassBody → Nat → Except Fault Unit
  | .bracket span _ body, left => deeper left span body.checkNesting
  | .row span items, left => deeper left span (checkAll items)
  | .op span _ first second, left =>
    deeper left span (fun left => do first.checkNesting left; second.checkNesting left)
  | _, _ => .ok ()

/-- Finds the first of some parts of a class that is nested too deep. -/
def ClassBody.checkAll : List ClassBody → Nat → Except Fault Unit
  | [], _ => .ok ()
  | item :: rest, left => do item.checkNesting left; checkAll rest left

end

mutual

/-- Finds the first part of a pattern that is nested too deep. -/
def Syntax.nestingFrom : Syntax → Nat → Except Fault Unit
  | .bracket span _ body, left => deeper left span body.checkNesting
  | .count span _ _ body, left => deeper left span body.nestingFrom
  | .capture span body, left => deeper left span body.nestingFrom
  | .group span _ body, left => deeper left span body.nestingFrom
  | .row span parts, left => deeper left span (nestingOfAll parts)
  | .choice span parts, left => deeper left span (nestingOfAll parts)
  | _, _ => .ok ()

/-- Finds the first of some parts of a pattern that is nested too deep. -/
def Syntax.nestingOfAll : List Syntax → Nat → Except Fault Unit
  | [], _ => .ok ()
  | part :: rest, left => do part.nestingFrom left; nestingOfAll rest left

end

/-- Finds the first place where a pattern is nested too deep. -/
def Syntax.checkNesting (pattern : Syntax) : Except Fault Unit := pattern.nestingFrom nestLimit

/-! ## Reading and searching -/

/-- Reads a pattern. -/
def read (pattern : List Char) : Except Fault Node := do
  let tree ← Syntax.read pattern
  tree.checkNesting
  tree.meaning

/-- Whether the text holds a match of the pattern, or why the pattern is none. -/
def search (pattern text : String) : Except String Bool :=
  match read pattern.toList with
  | .error fault => .error (fault.text pattern.toList)
  | .ok node =>
    if node.isTooHeavy then
      .error s!"Compiled regex exceeds size limit of {weightLimit} bytes."
    else .ok (node.found text.toList)

end Runbook.Pattern
