import Runbook.Definition.Basic
import Runbook.Number.Decimal
import Runbook.Sorting
import Runbook.Text.Blank
import Runbook.Variables

/-!
# The items and numbers of a loop

What a loop over items goes over, and in which order.

* `itemsOfText` makes a list of a text: the items of a JSON list, or else the lines;
* `resolveItems` makes a list of what is given, which is a list or a template for one;
* `Key` is what an item is sorted by; two keys that are numbers compare as numbers, any other two
  as texts, and `Key.compareIn` is the order of keys as it is asked for;
* `sortItems` sorts by the value at a path, and `compareAt` is what it goes by;
* `resolveBound` reads an end of a range;
* `spanLength` is the number of numbers from one end to the other, `spanValue` each of them.
-/

namespace Runbook.Loop

/-! ## Lists of items -/

/-- The list that a text holds in JSON. -/
def listOfText? (cs : List Char) : Option (List Value) :=
  match cs with
  | '[' :: _ => (Json.parse? (String.ofList cs)).bind Value.array?
  | _ => none

/-- The lines of a text without blanks around them, those that have nothing else left out. -/
def itemLines (cs : List Char) : List Value :=
  (((lines cs).map trim).filter (!·.isEmpty)).map (fun line => .string (String.ofList line))

/-- The items of a text. -/
def itemsOfText (s : String) : List Value :=
  let cs := trim s.toList
  (listOfText? cs).getD (itemLines cs)

/-- The items that a value from a variable stands for. -/
def itemsOfValue : Value → List Value
  | .array items => items
  | .string s => itemsOfText s
  | .null => []
  | other => [other]

/-- The items, or why there are none. -/
def resolveItems (vars : Variables) : Value → Except String (List Value)
  | .array items => .ok (items.map vars.interpolateValue)
  | .string template =>
    match lonePath? template with
    | some path => .ok (itemsOfValue ((vars.resolve path).getD .null))
    | none => .ok (itemsOfText (vars.interpolate template))
  | .null => .ok []
  | other => .error s!"items must be a list or a template, got {other.compact}"

/-! ## The order of items -/

/-- What an item is sorted by. -/
structure Key where
  /-- The key as a number, if it is one. -/
  number : Option Decimal.Reading
  /-- The key as a text. -/
  text : String
  deriving DecidableEq, Repr

/-- A value as a number: numbers, and texts that read as one. -/
def numberOf? : Value → Option Decimal.Reading
  | .number n => some (.finite n.toBinary64)
  | .string s => Decimal.readFloat? (trim s.toList)
  | _ => none

/-- The order of two numbers; what is not a number is equal to all. -/
def compareNumbers : Decimal.Reading → Decimal.Reading → Ordering
  | .nan, _ | _, .nan => .eq
  | .finite x, .finite y => x.compare y
  | .infinite a, .infinite b => if a = b then .eq else if a then .lt else .gt
  | .infinite negative, .finite _ => if negative then .lt else .gt
  | .finite _, .infinite negative => if negative then .gt else .lt

/-- The order of two texts, by code points. -/
def compareTexts (a b : String) : Ordering := if a < b then .lt else if a = b then .eq else .gt

/-- The key that a value is. -/
def Key.ofValue (v : Value) : Key := ⟨numberOf? v, v.text⟩

/-- The order of two keys. -/
def Key.compare (a b : Key) : Ordering :=
  match a.number, b.number with
  | some x, some y => compareNumbers x y
  | _, _ => compareTexts a.text b.text

/-- The order of two keys as it is asked for. -/
def Key.compareIn (order : SortOrder) (a b : Key) : Ordering :=
  match order with
  | .ascending => a.compare b
  | .descending => (a.compare b).swap

/-- The value that an item is sorted by; a lone dot stands for the item. -/
def sortValue (path : String) (item : Value) : Value :=
  if path = "." then item else (walk item (Template.segments path.toList)).getD .null

/-- The key of an item at a path. -/
def keyAt (path : String) (item : Value) : Key := Key.ofValue (sortValue path item)

/-- How two items compare by the values at a path. -/
def compareAt (path : String) (order : SortOrder) (a b : Value) : Ordering :=
  (keyAt path a).compareIn order (keyAt path b)

/-- Sorts items if there is a path to sort by; there is no result if that panics. -/
def sortItems (sorter : Sorter) (path : Option String) (order : SortOrder) (items : List Value) :
    Option (List Value) :=
  match path with
  | some path => sorter.sortBy (compareAt path order) items
  | none => some items

theorem panics_of_sortItems {sorter : Sorter} {path : Option String} {order : SortOrder}
    {items : List Value} (h : sortItems sorter path order items = none) : sorter.Panics := by
  cases path with
  | none => cases h
  | some path => exact Sorter.panics_of_sortBy h

/-! ## Ranges of numbers -/

/-- An end of a range, or why it has none. -/
def resolveBound (vars : Variables) : Bound → Except String Int
  | .int n => .ok n
  | .template template =>
    let text := vars.interpolate template
    match Decimal.readInt64? (trim text.toList) with
    | some n => .ok n
    | none => .error s!"range bound '{template}' is not an integer ('{text}')"

/-- The most passes that a loop counts. -/
def countLimit : Nat := twoTo 64 - 1

/-- How many numbers there are from `first` on, `stride` apart, that do not go beyond `last`. -/
def spanCount (first last stride : Int) : Nat :=
  if 0 < stride ∧ first ≤ last then ((last - first) / stride).toNat + 1
  else if stride < 0 ∧ last ≤ first then ((first - last) / (-stride)).toNat + 1
  else 0

/-- `spanCount` as far as a loop counts. -/
def spanLength (first last stride : Int) : Nat := min (spanCount first last stride) countLimit

/-- The number of a pass. -/
def spanValue (first stride : Int) (pass : Nat) : Int := first + pass * stride

end Runbook.Loop
