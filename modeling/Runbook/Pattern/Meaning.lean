import Runbook.Pattern.CharSet
import Runbook.Pattern.Node
import Runbook.Pattern.Property
import Runbook.Pattern.Syntax

/-!
# The meaning of patterns

What the syntax of a pattern means depends on the flags in force: whether letter case counts, what
ends a line, and whether classes hold the characters of all scripts or those of the basic alphabet
alone.

* `ClassBody.ranges` is the set that a class stands for;
* `Syntax.meaning` is the node that a pattern stands for, or the first fault of meaning, such as a
  property that does not exist.
-/

namespace Runbook.Pattern

/-- What the flags of a pattern say. -/
structure Flags where
  /-- Letters of either case count as one. -/
  ignoreCase : Bool := false
  /-- The line conditions look at every line. -/
  multiLine : Bool := false
  /-- The dot takes line feeds too. -/
  dotAll : Bool := false
  /-- Classes hold characters of all scripts. -/
  unicode : Bool := true
  /-- A carriage return ends lines too. -/
  returns : Bool := false

namespace Flags

/-- Switches the flag of a letter on or off. -/
def set (f : Flags) (letter : Char × Bool) : Flags :=
  match letter with
  | ('i', on) => { f with ignoreCase := on }
  | ('m', on) => { f with multiLine := on }
  | ('s', on) => { f with dotAll := on }
  | ('u', on) => { f with unicode := on }
  | ('R', on) => { f with returns := on }
  | _ => f

/-- Adds the other case of each letter to a set, if case does not count. -/
def fold (f : Flags) (r : Ranges) : Ranges :=
  if !f.ignoreCase then CharSet.normalize r
  else if f.unicode then CharSet.foldCase r
  else CharSet.foldAscii r

end Flags

/-! ## Classes -/

/-- Whether a set has characters beyond the basic alphabet. -/
def beyondAscii (r : Ranges) : Bool := r.any (fun (_, high) => 128 ≤ high)

/-- A set, or all other characters. -/
def negateIf (negated : Bool) (r : Ranges) : Ranges :=
  if negated then CharSet.complement r else r

/-- A set that may be used, or a fault: without the characters of all scripts a set must not have
any beyond the basic alphabet, as it could match a part of a character. -/
def checked (f : Flags) (span : Span) (r : Ranges) : Except Fault Ranges :=
  if !f.unicode && beyondAscii r then .error ⟨.splitsCharacters, span, none⟩ else .ok r

/-- A set with the other cases added, and then all other characters if it is negated. -/
def foldAndNegate (f : Flags) (span : Span) (negated : Bool) (r : Ranges) : Except Fault Ranges :=
  checked f span (negateIf negated (f.fold r))

/-- The set of a class that a letter names. -/
def LetterClass.ranges (unicode : Bool) : LetterClass → Ranges
  | .digits => if unicode then digitRanges else [(0x30, 0x39)]
  | .blanks => if unicode then blankRanges else [(0x9, 0xD), (0x20, 0x20)]
  | .words => if unicode then wordRanges else asciiWord

/-- The characters with a property. -/
def propertyRanges (f : Flags) (span : Span) (negated : Bool) (query : Query) :
    Except Fault Ranges :=
  if !f.unicode then .error ⟨.unicodeNotAllowed, span, none⟩
  else
    let found := match query with
      | .name name => Property.find name
      | .value property value => Property.findValue property value
    match found with
    | .known formula => foldAndNegate f span negated formula.ranges
    | .unknown => .error ⟨.propertyUnknown, span, none⟩
    | .unknownValue => .error ⟨.propertyValueUnknown, span, none⟩

/-- A character that may be used: a byte may not be a part of a character. -/
def Literal.checked (f : Flags) (l : Literal) : Except Fault Char :=
  if !f.unicode && l.isByte && 128 ≤ l.char.toNat then .error ⟨.splitsCharacters, l.span, none⟩
  else .ok l.char

/-- A character of a class. -/
def Literal.inClass (f : Flags) (l : Literal) : Except Fault Char := do
  let c ← l.checked f
  if !f.unicode && 128 ≤ c.toNat then .error ⟨.unicodeNotAllowed, l.span, none⟩ else .ok c

/-- What any character is, line ends perhaps apart. -/
def dotRanges (f : Flags) : Ranges :=
  if f.dotAll then CharSet.complement []
  else if f.returns then CharSet.complement [(10, 10), (13, 13)]
  else CharSet.complement [(10, 10)]

/-- The set of an atom in a class. -/
def Atom.inClass (f : Flags) : Atom → Except Fault Ranges
  | .literal l => do return CharSet.single (← l.inClass f)
  | .letter span negated kind => checked f span (negateIf negated (kind.ranges f.unicode))
  | .property span negated query => propertyRanges f span negated query
  | .edge _ _ => .ok []
  | .dot _ => .ok (dotRanges f)

/-- Applies an operation. -/
def ClassOp.apply : ClassOp → Ranges → Ranges → Ranges
  | .inter => CharSet.inter
  | .diff => CharSet.diff
  | .symmDiff => CharSet.symmDiff

mutual

/-- The set that a class stands for. -/
def ClassBody.ranges (f : Flags) : ClassBody → Except Fault Ranges
  | .empty _ => .ok []
  | .atom a => a.inClass f
  | .range _ first last => do
    let low ← first.inClass f
    let high ← last.inClass f
    return [(low.toNat, high.toNat)]
  | .named span negated ranges => foldAndNegate f span negated ranges
  | .bracket span negated body => do foldAndNegate f span negated (← body.ranges f)
  | .row _ items => unionOf f items
  | .op _ kind left right => do
    let left ← left.ranges f
    let right ← right.ranges f
    return kind.apply (f.fold left) (f.fold right)

/-- The set that some parts of a class stand for. -/
def ClassBody.unionOf (f : Flags) : List ClassBody → Except Fault Ranges
  | [] => .ok []
  | item :: rest => do
    let here ← item.ranges f
    return here ++ (← unionOf f rest)

end

/-! ## Patterns -/

/-- The condition that is meant. -/
def Edge.meaning (f : Flags) : Edge → Look
  | .lineStart =>
    if !f.multiLine then .textStart else if f.returns then .returnLineStart else .lineStart
  | .lineEnd => if !f.multiLine then .textEnd else if f.returns then .returnLineEnd else .lineEnd
  | .textStart => .textStart
  | .textEnd => .textEnd
  | .word => .wordEdge (!f.unicode)
  | .noWord => .noWordEdge (!f.unicode)
  | .wordStart => .wordStart (!f.unicode)
  | .wordEnd => .wordEnd (!f.unicode)
  | .halfStart => .halfStart (!f.unicode)
  | .halfEnd => .halfEnd (!f.unicode)

/-- The node that an atom stands for.  Of characters beyond the basic alphabet, the case does not
count only where classes hold the characters of all scripts. -/
def Atom.meaning (f : Flags) : Atom → Except Fault Node
  | .literal l => do return .set (f.fold (CharSet.single (← l.checked f)))
  | .letter span negated kind => do
    return .set (← checked f span (negateIf negated (kind.ranges f.unicode)))
  | .property span negated query => do return .set (← propertyRanges f span negated query)
  | .edge _ kind => .ok (.look (kind.meaning f))
  | .dot span =>
    if f.unicode then .ok (.set (dotRanges f)) else .error ⟨.splitsCharacters, span, none⟩

/-- What is meant, with the flags that hold afterwards. -/
abbrev Meaning := StateT Flags (Except Fault)

/-- Runs something, after which the flags are as before. -/
def keepingFlags (inside : Meaning Node) : Meaning Node := do
  let flags ← get
  let node ← inside
  set flags
  return node

/-- Switches flags on and off. -/
def setFlags (letters : FlagLetters) : Meaning Unit := modify (letters.foldl Flags.set)

mutual

/-- The node that a pattern stands for. -/
def Syntax.node : Syntax → Meaning Node
  | .empty _ => return .empty
  | .flags _ letters => do setFlags letters; return .empty
  | .atom a => do a.meaning (← get)
  | .bracket span negated body => do
    let f ← get
    return .set (← foldAndNegate f span negated (← body.ranges f))
  | .count _ least most body => do return .repeated least most (← body.node)
  | .capture _ body => do return .capture (← keepingFlags body.node)
  | .group _ letters body => keepingFlags (do setFlags letters; body.node)
  | .row _ parts => rowOf parts
  | .choice _ parts => do return .anyOf (← nodesOf parts)

/-- The node that parts in a row stand for. -/
def Syntax.rowOf : List Syntax → Meaning Node
  | [] => return .empty
  | part :: rest => do
    let first ← part.node
    return first.followedBy (← rowOf rest)

/-- The nodes that alternatives stand for; a flag set in one holds in those after it. -/
def Syntax.nodesOf : List Syntax → Meaning (List Node)
  | [] => return []
  | part :: rest => do
    let first ← part.node
    return first :: (← nodesOf rest)

end

/-- The node that a pattern stands for, no flags being set at its start. -/
def Syntax.meaning (pattern : Syntax) : Except Fault Node := (pattern.node.run {}).map (·.1)

end Runbook.Pattern
