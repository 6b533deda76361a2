import Runbook.KeyMap
import Runbook.Number.Binary64

/-!
# JSON values

The dynamic values that variables hold and documents contain.

* `Number` keeps whole numbers and doubles apart: `5` and `5.0` are different values with
  different texts;
* `Value` is the tree; the fields of an object stand in rising order of their names;
* `Value.same` is equality of contents, under which the two zeros of the doubles are equal;
* `Value.WellFormed` says that the fields of every object rise, as readers and maps build them;
* `record?` takes an object, or a list with one item for each field;
* `choice?` takes a text, or an object whose one field has the name of the choice and no value;
* `natural?` takes a whole number that fits 64 bits without a sign.
-/

namespace Runbook

/-- A JSON number: whole within 64 bits, or a finite double. -/
inductive Number where
  /-- A whole number from `-2 ^ 63` to `2 ^ 64 - 1`. -/
  | int (value : Int)
  /-- Any other number. -/
  | float (value : Binary64)
  deriving DecidableEq, Repr

namespace Number

/-- The number as a double; a large whole number is rounded. -/
def toBinary64 : Number → Binary64
  | .int i => Binary64.ofInt i
  | .float x => x

/-- Equality of value within one kind of number. -/
def same : Number → Number → Bool
  | .int a, .int b => a == b
  | .float a, .float b => a.toUnits == b.toUnits
  | _, _ => false

end Number

/-- A JSON value. -/
inductive Value where
  /-- The null value. -/
  | null
  /-- A truth value. -/
  | bool (b : Bool)
  /-- A number. -/
  | number (n : Number)
  /-- A text. -/
  | string (s : String)
  /-- A list. -/
  | array (items : List Value)
  /-- A map; the names rise. -/
  | object (fields : List (String × Value))
  deriving Repr, Inhabited

namespace Value

/-- A whole number as a value. -/
def int (i : Int) : Value := .number (.int i)

/-- A map as a value. -/
def ofMap (m : KeyMap Value) : Value := .object m.entries

/-- The map of the fields given; of two under one name the later stays. -/
def ofFields (fields : List (String × Value)) : Value := ofMap (KeyMap.ofList fields)

/-- A text, or null when there is none. -/
def ofString? : Option String → Value
  | some s => .string s
  | none => .null

/-- The field of an object. -/
def field? (v : Value) (name : String) : Option Value :=
  match v with
  | .object fields => Entries.find? name fields
  | _ => none

/-- The text, if the value is one. -/
def string? : Value → Option String
  | .string s => some s
  | _ => none

/-- The whole number, if the value is one. -/
def int? : Value → Option Int
  | .number (.int i) => some i
  | _ => none

/-- The truth value, if the value is one. -/
def bool? : Value → Option Bool
  | .bool b => some b
  | _ => none

/-- The items, if the value is a list. -/
def array? : Value → Option (List Value)
  | .array items => some items
  | _ => none

/-- The fields, if the value is a map. -/
def fields? : Value → Option (List (String × Value))
  | .object fields => some fields
  | _ => none

mutual

/-- Equality of contents. -/
def same : Value → Value → Bool
  | .null, .null => true
  | .bool a, .bool b => a == b
  | .number a, .number b => a.same b
  | .string a, .string b => a == b
  | .array xs, .array ys => sameItems xs ys
  | .object xs, .object ys => sameFields xs ys
  | _, _ => false

/-- Equality of contents, item by item. -/
def sameItems : List Value → List Value → Bool
  | [], [] => true
  | x :: xs, y :: ys => same x y && sameItems xs ys
  | _, _ => false

/-- Equality of contents, field by field. -/
def sameFields : List (String × Value) → List (String × Value) → Bool
  | [], [] => true
  | (k, x) :: xs, (l, y) :: ys => k == l && same x y && sameFields xs ys
  | _, _ => false

end

mutual

/-- Decides whether two values are the same tree. -/
def decEq : (a b : Value) → Decidable (a = b)
  | .null, b => by cases b <;> first | exact isTrue rfl | exact isFalse (by simp)
  | .bool x, b =>
    match b with
    | .bool y => if h : x = y then isTrue (h ▸ rfl) else isFalse (by simpa using h)
    | .null | .number _ | .string _ | .array _ | .object _ => isFalse (by simp)
  | .number x, b =>
    match b with
    | .number y => if h : x = y then isTrue (h ▸ rfl) else isFalse (by simpa using h)
    | .null | .bool _ | .string _ | .array _ | .object _ => isFalse (by simp)
  | .string x, b =>
    match b with
    | .string y => if h : x = y then isTrue (h ▸ rfl) else isFalse (by simpa using h)
    | .null | .bool _ | .number _ | .array _ | .object _ => isFalse (by simp)
  | .array xs, b =>
    match b with
    | .array ys =>
      match decEqItems xs ys with
      | isTrue h => isTrue (h ▸ rfl)
      | isFalse h => isFalse (by simpa using h)
    | .null | .bool _ | .number _ | .string _ | .object _ => isFalse (by simp)
  | .object xs, b =>
    match b with
    | .object ys =>
      match decEqFields xs ys with
      | isTrue h => isTrue (h ▸ rfl)
      | isFalse h => isFalse (by simpa using h)
    | .null | .bool _ | .number _ | .string _ | .array _ => isFalse (by simp)

/-- Decides whether two lists of values are the same. -/
def decEqItems : (xs ys : List Value) → Decidable (xs = ys)
  | [], [] => isTrue rfl
  | [], _ :: _ => isFalse (by simp)
  | _ :: _, [] => isFalse (by simp)
  | x :: xs, y :: ys =>
    match decEq x y, decEqItems xs ys with
    | isTrue h, isTrue g => isTrue (h ▸ g ▸ rfl)
    | isFalse h, _ => isFalse (fun e => h (List.cons.inj e).1)
    | _, isFalse g => isFalse (fun e => g (List.cons.inj e).2)

/-- Decides whether two lists of fields are the same. -/
def decEqFields : (xs ys : List (String × Value)) → Decidable (xs = ys)
  | [], [] => isTrue rfl
  | [], _ :: _ => isFalse (by simp)
  | _ :: _, [] => isFalse (by simp)
  | (k, x) :: xs, (l, y) :: ys =>
    if hk : k = l then
      match decEq x y, decEqFields xs ys with
      | isTrue h, isTrue g => isTrue (hk ▸ h ▸ g ▸ rfl)
      | isFalse h, _ => isFalse (fun e => h (Prod.mk.inj (List.cons.inj e).1).2)
      | _, isFalse g => isFalse (fun e => g (List.cons.inj e).2)
    else isFalse (fun e => hk (Prod.mk.inj (List.cons.inj e).1).1)

end

instance : DecidableEq Value := decEq

mutual

/-- The fields of every object inside the value rise. -/
def WellFormed : Value → Prop
  | .array items => ItemsWellFormed items
  | .object fields => RisingKeys fields ∧ FieldsWellFormed fields
  | _ => True

/-- Every item is well formed. -/
def ItemsWellFormed : List Value → Prop
  | [] => True
  | v :: rest => WellFormed v ∧ ItemsWellFormed rest

/-- The value of every field is well formed. -/
def FieldsWellFormed : List (String × Value) → Prop
  | [] => True
  | (_, v) :: rest => WellFormed v ∧ FieldsWellFormed rest

end

end Value

/-!
## Records in JSON

How a JSON value reads as a record with named fields and as one of a list of named choices.
-/

namespace Json

/-- The fields of a record: a function from names to values. -/
def record? (names : List String) : Value → Option (String → Option Value)
  | .object fields => some (fun name => Entries.find? name fields)
  | .array items =>
    if items.length = names.length then
      some (fun name => ((names.zip items).find? (·.1 == name)).map (·.2))
    else none
  | _ => none

/-- The choice that the value names. -/
def choice? {α : Type} (name : α → String) (all : List α) : Value → Option α
  | .string s => all.find? (name · == s)
  | .object [(s, .null)] => all.find? (name · == s)
  | _ => none

/-- A natural number below `2 ^ 64`. -/
def natural? : Value → Option Nat
  | .number (.int i) => if 0 ≤ i ∧ i < twoTo 64 then some i.toNat else none
  | _ => none

/-- A value that may be absent or null. -/
def optional? {α : Type} (read : Value → Option α) : Option Value → Option (Option α)
  | none | some .null => some none
  | some v => (read v).map some

end Json

end Runbook
