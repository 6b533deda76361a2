import Runbook.Shell.LinePattern

/-!
# Matches of line patterns

Where a pattern matches in a text: at the first place where it can, and there as far as it can.

* `Reached` is a place that a match has come to, with the texts that it remembers;
* `LinePattern.reach` has the places that a match can come to, the preferred one first;
* `LinePattern.search` finds the first match from a place on.
-/

namespace Runbook.Shell

/-- How a text is searched. -/
structure SearchMode where
  /-- Whether small and capital letters count as the same. -/
  fold : Bool
  /-- Whether the lines of the text have starts and ends of their own. -/
  lines : Bool
  deriving DecidableEq, Repr

/-- A place that a match has come to. -/
structure Reached where
  /-- How many characters lie before it. -/
  index : Nat
  /-- The character before it. -/
  before : Option Char
  /-- The text after it. -/
  rest : List Char
  /-- The numbers of the texts that are remembered, with the places where each begins and ends. -/
  groups : List (Nat × Nat × Nat)

/-- What tells two places apart. -/
abbrev ReachedKey := Nat × List (Nat × Nat × Nat)

namespace Reached

/-- What tells the place apart from others. -/
def key (r : Reached) : ReachedKey := (r.index, r.groups)

/-- The place in a text behind so many characters. -/
def at_ (text : List Char) (index : Nat) : Reached :=
  ⟨index, if index = 0 then none else text[index - 1]?, text.drop index, []⟩

/-- Goes over one character, if it is of a kind. -/
def across (p : Char → Bool) (r : Reached) : List Reached :=
  match r.rest with
  | [] => []
  | c :: rest => if p c then [{ r with index := r.index + 1, before := some c, rest }] else []

/-- Goes over some characters, whatever they are. -/
def skip (count : Nat) (r : Reached) : Reached :=
  { r with
    index := r.index + count
    before := ((r.rest.take count).getLast?).or r.before
    rest := r.rest.drop count }

/-- Remembers the text between two places. -/
def remember (number start : Nat) (r : Reached) : Reached :=
  let others := r.groups.filter (fun (n, _) => n != number)
  { r with
    groups := others.takeWhile (fun (n, _) => n < number) ++
      (number, start, r.index) :: others.dropWhile (fun (n, _) => n < number) }

/-- The text that is remembered under a number; the empty text if there is none. -/
def remembered (text : List Char) (number : Nat) (r : Reached) : List Char :=
  match r.groups.find? (fun (n, _) => n == number) with
  | some (_, start, stop) => (text.take stop).drop start
  | none => []

/-- The places without those that come again. -/
def distinct (places : List Reached) : List Reached :=
  (places.foldl (fun (acc : List ReachedKey × List Reached) r =>
    if acc.1.contains r.key then acc else (r.key :: acc.1, r :: acc.2)) ([], [])).2.reverse

/-- The places that steps over characters lead to from a place, those that take more steps first,
as `found` in reverse; `seen` are places where the steps have been taken, with the number of steps
that were left if that matters.  At most `fuel` steps are taken. -/
def explore (counts : Bool) (step : Reached → List Reached) : (fuel : Nat) →
    (acc : List (Nat × ReachedKey) × List Reached) → Reached →
    List (Nat × ReachedKey) × List Reached
  | 0, (seen, found), r => (seen, r :: found)
  | fuel + 1, (seen, found), r =>
    let key := (if counts then fuel + 1 else 0, r.key)
    if seen.contains key then (seen, found)
    else
      let (seen, found) := ((step r).filter (r.index < ·.index)).foldl (explore counts step fuel)
        (key :: seen, found)
      (seen, r :: found)

end Reached

namespace SearchMode

/-- Whether two characters count as the same. -/
def same (mode : SearchMode) (c d : Char) : Bool :=
  c == d || (mode.fold && c.toLower == d.toLower)

/-- Whether a character lies in ranges. -/
def inRanges (mode : SearchMode) (ranges : List BracketRange) (c : Char) : Bool :=
  let has (c : Char) : Bool := ranges.any (fun (low, high) => low ≤ c && c ≤ high)
  has c || (mode.fold && (has c.toLower || has c.toUpper))

/-- Whether a text begins another one. -/
def begins (mode : SearchMode) : List Char → List Char → Bool
  | [], _ => true
  | _ :: _, [] => false
  | c :: cs, d :: ds => mode.same c d && begins mode cs ds

/-- Whether a character belongs to words. -/
def inWord (c : Option Char) : Bool :=
  c.any (fun c => LinePattern.wordRanges.any (fun (low, high) => low ≤ c && c ≤ high))

/-- Whether a condition holds at a place. -/
def holds (mode : SearchMode) (r : Reached) (condition : Between) : Bool :=
  let before := inWord r.before
  let after := inWord r.rest.head?
  match condition with
  | .textStart => r.before.isNone
  | .textEnd => r.rest.isEmpty
  | .lineStart => r.before.isNone || (mode.lines && r.before == some '\n')
  | .lineEnd => r.rest.isEmpty || (mode.lines && r.rest.head? == some '\n')
  | .wordStart => !before && after
  | .wordEnd => before && !after
  | .wordEdge => before != after
  | .noWordEdge => before == after
  | .noWordBefore => !before
  | .noWordAfter => !after

end SearchMode

/-- A match. -/
structure Found where
  /-- How many characters lie before it. -/
  start : Nat
  /-- The place where it ends. -/
  last : Reached

namespace LinePattern

/-- The places that a match from a place can come to, the preferred one first. -/
def reach (mode : SearchMode) (text : List Char) : LinePattern → Reached → List Reached
  | .empty, r => [r]
  | .any, r => r.across (fun _ => true)
  | .set isNegated ranges, r => r.across (fun c => mode.inRanges ranges c != isNegated)
  | .place condition, r => if mode.holds r condition then [r] else []
  | .group number body, r => (reach mode text body r).map (·.remember number r.index)
  | .again number, r =>
    let past := r.remembered text number
    if mode.begins past r.rest then [r.skip past.length] else []
  | .both first second, r =>
    Reached.distinct ((reach mode text first r).flatMap (reach mode text second))
  | .either left right, r => Reached.distinct (reach mode text left r ++ reach mode text right r)
  | .count least most body, r =>
    let step := reach mode text body
    let size := r.rest.length + 1
    let after := Nat.repeat (fun rs => Reached.distinct (rs.flatMap step)) (min least size) [r]
    let more := match most with
      | none => size
      | some most => min (most - least) size
    (after.foldl (Reached.explore most.isSome step more) ([], [])).2.reverse

/-- The longest match that starts at a place. -/
def longest? (mode : SearchMode) (pattern : LinePattern) (text : List Char) (r : Reached) :
    Option Found :=
  match reach mode text pattern r with
  | [] => none
  | first :: more =>
    some ⟨r.index, more.foldl (fun best r => if best.index < r.index then r else best) first⟩

/-- The first match from a place on; `fuel` is more than the length of the text after it. -/
def searchFrom (mode : SearchMode) (pattern : LinePattern) (text : List Char) : (fuel : Nat) →
    Reached → Option Found
  | 0, _ => none
  | fuel + 1, r =>
    match longest? mode pattern text r with
    | some found => some found
    | none => if r.rest.isEmpty then none else searchFrom mode pattern text fuel (r.skip 1)

/-- The first match that begins behind at least so many characters. -/
def search (mode : SearchMode) (pattern : LinePattern) (text : List Char) (index : Nat) :
    Option Found :=
  if text.length < index then none
  else searchFrom mode pattern text (text.length + 1 - index) (.at_ text index)

/-- Whether there is a match. -/
def matchesIn (mode : SearchMode) (pattern : LinePattern) (text : List Char) : Bool :=
  (search mode pattern text 0).isSome

end LinePattern

end Runbook.Shell
