import Runbook.Pattern.CharSet
import Runbook.Text.Word

/-!
# Patterns

The tree of a pattern, and the search for it in a text.

* `Node.followedBy`, `Node.repeated` and `Node.anyOf` put nodes together;
* `Node.ends` maps the marks of all places where a match of a node may start to the marks of the
  places where such a match may end, the places of a text of `n` characters being `0` to `n`;
* `Node.found` says whether a pattern matches anywhere in a text.
-/

namespace Runbook.Pattern

/-- The characters of words of the basic alphabet. -/
def asciiWord : Ranges := [(0x30, 0x39), (0x41, 0x5A), (0x5F, 0x5F), (0x61, 0x7A)]

/-- A condition on a place in a text. -/
inductive Look where
  /-- The start of the text. -/
  | textStart
  /-- The end of the text. -/
  | textEnd
  /-- The start of a line. -/
  | lineStart
  /-- The end of a line. -/
  | lineEnd
  /-- The start of a line, with a carriage return also ending lines. -/
  | returnLineStart
  /-- The end of a line, with a carriage return also ending lines. -/
  | returnLineEnd
  /-- A word begins or ends. -/
  | wordEdge (ascii : Bool)
  /-- No word begins or ends. -/
  | noWordEdge (ascii : Bool)
  /-- A word begins. -/
  | wordStart (ascii : Bool)
  /-- A word ends. -/
  | wordEnd (ascii : Bool)
  /-- No word character stands before. -/
  | halfStart (ascii : Bool)
  /-- No word character follows. -/
  | halfEnd (ascii : Bool)
  deriving DecidableEq, Repr

/-- A pattern. -/
inductive Node where
  /-- The empty text. -/
  | empty
  /-- One character of a set. -/
  | set (ranges : Ranges)
  /-- The empty text where a condition holds. -/
  | look (condition : Look)
  /-- A number of matches in a row. -/
  | count (least : Nat) (most : Option Nat) (body : Node)
  /-- One after the other. -/
  | both (first second : Node)
  /-- One or the other. -/
  | either (left right : Node)
  /-- A match that is remembered. -/
  | capture (body : Node)
  deriving Repr

namespace Node

/-- Whether a match never has a character. -/
def isZeroWidth : Node → Bool
  | .empty => true
  | .set _ => false
  | .look _ => true
  | .count _ most body => most.isSome && isZeroWidth body
  | .both first second => isZeroWidth first && isZeroWidth second
  | .either left right => isZeroWidth left && isZeroWidth right
  | .capture body => isZeroWidth body

/-- Whether every match has a character. -/
def takesAny : Node → Bool
  | .empty => false
  | .set _ => true
  | .look _ => false
  | .count least _ body => 0 < least && takesAny body
  | .both first second => takesAny first || takesAny second
  | .either left right => takesAny left && takesAny right
  | .capture body => takesAny body

/-- One node after the other; what is empty is left out. -/
def followedBy : Node → Node → Node
  | .empty, second => second
  | first, .empty => first
  | first, second => .both first second

/-- A node over and over.  What has no character does not change by coming more than once. -/
def repeated (least : Nat) (most : Option Nat) (body : Node) : Node :=
  let (least, most) :=
    if body.isZeroWidth then (min least 1, some (min (most.getD 1) 1)) else (least, most)
  if most = some 0 then .empty
  else if least = 1 ∧ most = some 1 then body
  else .count least most body

/-- The characters of a set. -/
def asSet? : Node → Option Ranges
  | .set r => some r
  | _ => none

/-- Any of several nodes; sets of characters become one. -/
def anyOf (nodes : List Node) : Node :=
  match nodes.mapM asSet?, nodes.reverse with
  | some sets, _ => .set (CharSet.normalize sets.flatten)
  | none, last :: before => before.foldl (fun rest node => .either node rest) last
  | none, [] => .set []

end Node

/-- Whether there is a character and it belongs to words. -/
def inWord (ascii : Bool) (c : Option Char) : Bool :=
  c.any (fun c => if ascii then asciiWord.has c else wordRanges.has c)

/-- Whether the condition holds between two characters; there is none beyond the text. -/
def Look.holds (before after : Option Char) : Look → Bool
  | .textStart => before.isNone
  | .textEnd => after.isNone
  | .lineStart => before.isNone || before == some '\n'
  | .lineEnd => after.isNone || after == some '\n'
  | .returnLineStart =>
    before.isNone || before == some '\n' || (before == some '\r' && after != some '\n')
  | .returnLineEnd =>
    after.isNone || after == some '\r' || (after == some '\n' && before != some '\r')
  | .wordEdge ascii => inWord ascii before != inWord ascii after
  | .noWordEdge ascii => inWord ascii before == inWord ascii after
  | .wordStart ascii => !inWord ascii before && inWord ascii after
  | .wordEnd ascii => inWord ascii before && !inWord ascii after
  | .halfStart ascii => !inWord ascii before
  | .halfEnd ascii => !inWord ascii after

/-- Marks on the places of a text. -/
abbrev Marks := List Bool

/-- The places marked in either. -/
def Marks.union (a b : Marks) : Marks := List.zipWith (· || ·) a b

/-- Moves over one character of a set. -/
def Marks.over (r : Ranges) (text : List Char) (marks : Marks) : Marks :=
  false :: List.zipWith (fun m c => m && r.has c) marks text

/-- Keeps the places where a condition holds. -/
def Marks.keep (look : Look) (text : List Char) (marks : Marks) : Marks :=
  List.zipWith (fun m (b, a) => m && look.holds b a) marks
    ((none :: text.map some).zip (text.map some ++ [none]))

/-- Takes a step at most `times` times, and stops when nothing changes. -/
def Marks.iterate (step : Marks → Marks) : Nat → Marks → Marks
  | 0, marks => marks
  | times + 1, marks =>
    let next := step marks
    if next == marks then marks else iterate step times next

/-- Where a match can end that starts at a marked place.  More steps than the text has places
change nothing. -/
def Node.ends (text : List Char) : Node → Marks → Marks
  | .empty, marks => marks
  | .set r, marks => marks.over r text
  | .look condition, marks => marks.keep condition text
  | .count least most body, marks =>
    let step := ends text body
    let bound := text.length + 2
    let after := Marks.iterate step (min least bound) marks
    let more := match most with
      | none => bound
      | some most => min (most - least) bound
    Marks.iterate (fun m => m.union (step m)) more after
  | .both first second, marks => ends text second (ends text first marks)
  | .either left right, marks => (ends text left marks).union (ends text right marks)
  | .capture body, marks => ends text body marks

/-- Whether the pattern matches anywhere in the text. -/
def Node.found (node : Node) (text : List Char) : Bool :=
  (node.ends text (List.replicate (text.length + 1) true)).any id

end Runbook.Pattern
