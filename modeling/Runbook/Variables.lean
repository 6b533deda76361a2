import Runbook.Json.Printer
import Runbook.Json.Reader
import Runbook.Template
import Runbook.Text.Blank

/-!
# Variables

The bindings that steps read and write, and the ways to read them.

* `walk` follows the segments of a path into a value; a text that holds a JSON document is opened
  on the way, so a value and its JSON text answer alike;
* `Variables.resolve` looks a path up: a variable of exactly that name first, else a walk from the
  variable that the first segment names;
* `Variables.interpolate` fills a template, a path without a value counting as empty;
* `Variables.interpolateValue` fills every text inside a value.
-/

namespace Runbook

/-- The document in a text that begins, after blanks, with a bracket or a brace. -/
def openText? (s : String) : Option Value :=
  match trimStart s.toList with
  | '[' :: rest => Json.parse? (String.ofList ('[' :: rest))
  | '\x7b' :: rest => Json.parse? (String.ofList ('\x7b' :: rest))
  | _ => none

/-- One step down, by a field name or the position of an item. -/
def child? (segment : List Char) : Value → Option Value
  | .object fields => Entries.find? (String.ofList segment) fields
  | .array items => (Decimal.readBits? 64 segment).bind (items[·]?)
  | _ => none

/-- A value as something to step into: a text is opened. -/
def opened? : Value → Option Value
  | .string s => openText? s
  | v => some v

/-- Follows the segments of a path into a value. -/
def walk : Value → List (List Char) → Option Value
  | v, [] => some v
  | v, segment :: rest => do walk (← child? segment (← opened? v)) rest

/-- The path of a text that is, but for blanks around it, one placeholder. -/
def lonePath? (template : String) : Option String :=
  Template.onlyPath? (Template.pieces (trim template.toList))

mutual

/-- Whether a text inside the value has a placeholder. -/
def hasPlaceholders : Value → Bool
  | .string s => Template.hasPlaceholder s.toList
  | .array items => itemsHavePlaceholders items
  | .object fields => fieldsHavePlaceholders fields
  | _ => false

/-- Whether a text inside one of the items has a placeholder. -/
def itemsHavePlaceholders : List Value → Bool
  | [] => false
  | v :: rest => hasPlaceholders v || itemsHavePlaceholders rest

/-- Whether a text inside one of the fields has a placeholder. -/
def fieldsHavePlaceholders : List (String × Value) → Bool
  | [] => false
  | (_, v) :: rest => hasPlaceholders v || fieldsHavePlaceholders rest

end

/-- The bindings of a run. -/
abbrev Variables := KeyMap Value

namespace Variables

/-- The value at a path. -/
def resolve (vars : Variables) (path : String) : Option Value :=
  match vars.find? path with
  | some v => some v
  | none =>
    match Template.segments path.toList with
    | [] => none
    | head :: rest => (vars.find? (String.ofList head)).bind (walk · rest)

/-- The text of the value at a path. -/
def render (vars : Variables) (path : String) : Option String :=
  (vars.resolve path).map Value.text

/-- What a placeholder turns into. -/
def rendered (vars : Variables) (path : String) : List Char :=
  ((vars.render path).getD "").toList

/-- Fills a template. -/
def interpolate (vars : Variables) (template : String) : String :=
  String.ofList (Template.fill vars.rendered template.toList)

mutual

/-- Fills every text inside a value. -/
def interpolateValue (vars : Variables) : Value → Value
  | .string s => .string (vars.interpolate s)
  | .array items => .array (interpolateItems vars items)
  | .object fields => .object (interpolateFields vars fields)
  | .null => .null
  | .bool b => .bool b
  | .number n => .number n

/-- Fills every text inside the items. -/
def interpolateItems (vars : Variables) : List Value → List Value
  | [] => []
  | v :: rest => interpolateValue vars v :: interpolateItems vars rest

/-- Fills every text inside the fields, whose names stay. -/
def interpolateFields (vars : Variables) : List (String × Value) → List (String × Value)
  | [] => []
  | (name, v) :: rest => (name, interpolateValue vars v) :: interpolateFields vars rest

end

end Variables

end Runbook
