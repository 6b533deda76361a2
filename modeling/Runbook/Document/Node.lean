import Runbook.Json.Value
import Runbook.Number.Decimal
import Runbook.Text.Utf8

/-!
# Document nodes

What a written document consists of, before it is known what its parts are meant to be: scalars,
lists and maps.  A scalar is either typed, or still as it was written, so that a reader who expects
a text can take `5` as a text while a reader who expects nothing in particular takes it as a number.

* `Style` and `Tag` are how a scalar stands in the text;
* `plainScalar?` is the type that a written scalar has by itself;
* `Node.typed?` gives every scalar inside a node its type;
* `Node.text?`, `Node.truth?`, `Node.isAbsent?`, `Node.choice?`, `Node.items?` and `Node.entries?`
  read a node as what is expected;
* `Node.value?` reads a node as a JSON value, and `Node.ofValue` is the way back.
-/

namespace Runbook

/-- A typed scalar. -/
inductive Scalar where
  /-- Nothing. -/
  | null
  /-- A truth value. -/
  | bool (b : Bool)
  /-- A whole number within 64 bits. -/
  | int (i : Int)
  /-- Another number. -/
  | float (x : Decimal.Reading)
  /-- A text. -/
  | text (s : String)
  deriving DecidableEq, Repr

/-- How a scalar is written. -/
inductive Style where
  /-- As it is. -/
  | plain
  /-- In lines of their own that keep their ends. -/
  | literal
  /-- In quotes, or in lines that are joined. -/
  | other
  deriving DecidableEq, Repr

/-- The types of scalars that a tag can name. -/
inductive CoreType where
  /-- A truth value. -/
  | bool
  /-- A whole number. -/
  | int
  /-- Any number. -/
  | float
  /-- Nothing. -/
  | null
  deriving DecidableEq, Repr

/-- The name of a type in tags. -/
def CoreType.name : CoreType → String
  | .bool => "bool"
  | .int => "int"
  | .float => "float"
  | .null => "null"

/-- The types of scalars that a tag can name, in order. -/
def CoreType.all : List CoreType := [.bool, .int, .float, .null]

/-- What the tag of a node says. -/
inductive Tag where
  /-- A name of the document's own, which nothing here has a type for. -/
  | own (name : String)
  /-- Octets of the document's own that are no text, and say nothing. -/
  | garbled
  /-- The type of a scalar. -/
  | core (type : CoreType)
  /-- Something else; a scalar is a text then. -/
  | foreign
  deriving DecidableEq, Repr

namespace Tag

/-- What the tags of core types begin with. -/
def coreSpace : String := "tag:yaml.org,2002:"

/-- The tag that octets stand for. -/
def ofOctets (octets : List UInt8) : Tag :=
  match octets with
  | 33 :: rest =>
    match Utf8.decode? (if rest.isEmpty then octets else rest) with
    | some name => .own name
    | none => .garbled
  | _ =>
    match CoreType.all.find? (fun type => Utf8.encode (coreSpace ++ type.name) == octets) with
    | some type => .core type
    | none => .foreign

end Tag

/-- How a list or map came to be. -/
inductive Mark where
  /-- It is typed, as all inside it is. -/
  | typed
  /-- It is a JSON value. -/
  | value
  /-- It was written, perhaps with a tag. -/
  | written (tag : Option Tag)
  deriving DecidableEq, Repr

/-- A node of a document. -/
inductive Node where
  /-- A typed scalar. -/
  | scalar (s : Scalar)
  /-- A scalar as it was written. -/
  | written (text : String) (style : Style) (tag : Option Tag)
  /-- A list. -/
  | list (items : List Node) (mark : Mark)
  /-- A map, in the order in which it was written. -/
  | map (entries : List (Node × Node)) (mark : Mark)
  deriving Repr

instance : Inhabited Node := ⟨.scalar .null⟩

namespace Node

/-! ## The types of plain scalars -/

/-- Whether the text is a word for nothing. -/
def isNullWord (s : String) : Bool := s == "null" || s == "Null" || s == "NULL" || s == "~"

/-- The truth value that the text is a word for. -/
def truthWord? (s : String) : Option Bool :=
  if s == "true" || s == "True" || s == "TRUE" then some true
  else if s == "false" || s == "False" || s == "FALSE" then some false
  else none

/-- The text without a sign. -/
def dropSign : List Char → List Char
  | '+' :: rest => rest
  | '-' :: rest => rest
  | cs => cs

/-- Whether the text is all digits with a zero in front, and so no number. -/
def isZeroPadded (cs : List Char) : Bool :=
  match dropSign cs with
  | '0' :: rest => !rest.isEmpty && rest.all Decimal.isDigit
  | _ => false

/-- The digits after a mark for a base, and the base. -/
def based? : List Char → Option (Nat × List Char)
  | '0' :: 'x' :: rest => some (16, rest)
  | '0' :: 'o' :: rest => some (8, rest)
  | '0' :: 'b' :: rest => some (2, rest)
  | _ => none

/-- The natural number that a sign-free text stands for. -/
def naturalWord? (cs : List Char) : Option Nat :=
  match based? cs with
  | some (base, digits) => (Decimal.readNatIn? base digits) <|> Decimal.readNat? cs
  | none => Decimal.readNat? cs

/-- The whole number that the text stands for, of any size. -/
def wholeWord? (cs : List Char) : Option Int :=
  if isZeroPadded cs then none
  else match cs with
    | '+' :: rest => (naturalWord? rest).map Int.ofNat
    | '-' :: rest => (naturalWord? rest).map (fun n => -(n : Int))
    | _ => (naturalWord? cs).map Int.ofNat

/-- The double that the text stands for. -/
def floatWord? (cs : List Char) : Option Decimal.Reading :=
  let unsigned := match cs with
    | '+' :: rest => rest
    | _ => cs
  let word := String.ofList unsigned
  let whole := String.ofList cs
  if unsigned != cs && (unsigned.head? == some '+' || unsigned.head? == some '-') then none
  else if word == ".inf" || word == ".Inf" || word == ".INF" then some (.infinite false)
  else if whole == "-.inf" || whole == "-.Inf" || whole == "-.INF" then some (.infinite true)
  else if whole == ".nan" || whole == ".NaN" || whole == ".NAN" then some .nan
  else match Decimal.readFloat? unsigned with
    | some (.finite x) => some (.finite x)
    | _ => none

/-- Whether a whole number fits 64 bits, with or without a sign. -/
def fits64 (i : Int) : Bool := -twoTo 63 ≤ i && i < twoTo 64

/-- Whether a whole number fits 128 bits, with or without a sign. -/
def fits128 (i : Int) : Bool := -twoTo 127 ≤ i && i < twoTo 128

/-- The type that a plain scalar has by itself.  A whole number too large for 64 bits, but not for
128, has none. -/
def plainScalar? (s : String) : Option Scalar :=
  let cs := s.toList
  if cs.isEmpty || isNullWord s then some .null
  else match truthWord? s with
    | some b => some (.bool b)
    | none =>
      match wholeWord? cs with
      | some i =>
        if fits64 i then some (.int i)
        else if fits128 i then none
        else some ((floatWord? cs).elim (.text s) .float)
      | none =>
        if isZeroPadded cs then some (.text s)
        else some ((floatWord? cs).elim (.text s) .float)

/-- The scalar of a type that the text stands for. -/
def coreScalar? (text : String) : CoreType → Option Scalar
  | .bool => (truthWord? text).map .bool
  | .int => (wholeWord? text.toList).bind (fun i => if fits64 i then some (.int i) else none)
  | .float => (floatWord? text.toList).map .float
  | .null => if isNullWord text then some .null else none

/-- The type of a scalar written in a style without a tag that counts. -/
def untaggedScalar? (text : String) (style : Style) : Option Scalar :=
  if style = .plain then plainScalar? text else some (.text text)

/-- The type of a written scalar. -/
def writtenScalar? (text : String) (style : Style) : Option Tag → Option Scalar
  | none | some .garbled => untaggedScalar? text style
  | some (.own _) => none
  | some (.core type) => coreScalar? text type
  | some .foreign => some (.text text)

/-- Whether a list or map has no tag of the document's own. -/
def isPlainMark : Mark → Bool
  | .written (some (.own _)) => false
  | _ => true

mutual

/-- Gives every scalar its type. -/
def typed? : Node → Option Node
  | .scalar s => some (.scalar s)
  | .written text style tag => (writtenScalar? text style tag).map .scalar
  | .list items mark => if isPlainMark mark then (typedItems? items).map (.list · .typed) else none
  | .map entries mark =>
    if isPlainMark mark then (typedEntries? entries).map (.map · .typed) else none

/-- Gives every scalar inside the items its type. -/
def typedItems? : List Node → Option (List Node)
  | [] => some []
  | n :: rest => do return (← typed? n) :: (← typedItems? rest)

/-- Gives every scalar inside the entries its type. -/
def typedEntries? : List (Node × Node) → Option (List (Node × Node))
  | [] => some []
  | (k, n) :: rest => do return (← typed? k, ← typed? n) :: (← typedEntries? rest)

end

/-! ## Reading a node as what is expected -/

/-- The text, if one can be taken from the node. -/
def text? : Node → Option String
  | .scalar (.text s) => some s
  | .written text _ _ => some text
  | _ => none

/-- Whether the node stands for nothing being there; a word for nothing is a fault if the tag asks
for one and there is another. -/
def isAbsent? : Node → Option Bool
  | .scalar .null => some true
  | .written text .plain none => some (text.isEmpty || isNullWord text)
  | .written text .plain (some (.core .null)) => if isNullWord text then some true else none
  | _ => some false

/-- The truth value. -/
def truth? : Node → Option Bool
  | .scalar (.bool b) => some b
  | .written text .plain _ => truthWord? text
  | .written text .literal (some (.core .bool)) => truthWord? text
  | _ => none

/-- The whole number, of a typed node. -/
def int? : Node → Option Int
  | .scalar (.int i) => some i
  | _ => none

/-- The name of a field of a record or of a choice, or its position among them. -/
inductive FieldKey where
  /-- A name. -/
  | name (s : String)
  /-- A position, from 0. -/
  | position (n : Nat)
  deriving DecidableEq, Repr

/-- A node as the name or position of a field. -/
def fieldKey? : Node → Option FieldKey
  | .scalar (.int i) => if 0 ≤ i then some (.position i.toNat) else none
  | n => n.text?.map .name

/-- Whether a key means the field `name` at position `i` of a record. -/
def FieldKey.means (name : String) (i : Nat) : FieldKey → Bool
  | .name s => s == name
  | .position n => n == i

/-- Whether a node says nothing about the choice that it is the value of. -/
def isNothing (mark : Mark) : Node → Bool
  | .scalar .null => true
  | .map [] _ => mark == .typed
  | _ => false

/-- The name of a choice: a text, a tag of the document's own on nothing, or a map from the name
to nothing. -/
def choice? : Node → Option FieldKey
  | .scalar (.text s) => some (.name s)
  | .written text style (some (.own name)) =>
    if style = .plain ∧ (text.isEmpty || isNullWord text) then some (.name name) else none
  | .written text _ _ => some (.name text)
  | .map [(_, _)] (.written _) => none
  | .map [(key, v)] mark => if v.isNothing mark then key.fieldKey? else none
  | _ => none

/-- Whether the node is an empty plain scalar, which can stand for an empty list or map. -/
def isBlankWord : Node → Bool
  | .written text .plain _ => text.isEmpty
  | _ => false

/-- The items of a list. -/
def items? : Node → Option (List Node)
  | .list items _ => some items
  | n => if n.isBlankWord then some [] else none

/-- The entries of a map. -/
def entries? : Node → Option (List (Node × Node))
  | .map entries _ => some entries
  | n => if n.isBlankWord then some [] else none

/-- The entries of a map from names. -/
def named? (n : Node) : Option (List (String × Node)) := do
  (← n.entries?).mapM (fun (k, v) => do return (← k.text?, v))

/-- The entries of a map as fields. -/
def fields? (n : Node) : Option (List (FieldKey × Node)) := do
  (← n.entries?).mapM (fun (k, v) => do return (← k.fieldKey?, v))

/-- The values given for the field `name` at position `i`; two are a fault. -/
def field? (fields : List (FieldKey × Node)) (name : String) (i : Nat) :
    Option (Option Node) :=
  match fields.filter (fun (k, _) => k.means name i) with
  | [] => some none
  | [(_, v)] => some (some v)
  | _ => none

/-- A record with the fields `names`: the value of each, if it is given.  A list that was not
written is a record too, its items being the values in order; it needs the first `required` of
them. -/
def record? (names : List String) (required : Nat) (n : Node) : Option (List (Option Node)) :=
  match n with
  | .list _ (.written _) => none
  | .list items _ =>
    if required ≤ items.length ∧ items.length ≤ names.length then
      some (items.map some ++ List.replicate (names.length - items.length) none)
    else none
  | n => do
    let fields ← n.fields?
    names.zipIdx.mapM (fun (name, i) => field? fields name i)

/-! ## JSON values -/

/-- A typed scalar as a JSON value; infinity and not-a-number have none and become null. -/
def Scalar.value : Scalar → Value
  | .null => .null
  | .bool b => .bool b
  | .int i => .int i
  | .float (.finite x) => .number (.float x)
  | .float _ => .null
  | .text s => .string s

mutual

/-- The node as a JSON value. -/
def value? : Node → Option Value
  | .scalar s => some (Scalar.value s)
  | .written text style tag => (writtenScalar? text style tag).map Scalar.value
  | .list items mark => if isPlainMark mark then (valueItems? items).map .array else none
  | .map entries mark =>
    if isPlainMark mark then (valueEntries? entries).map .ofFields else none

/-- The items as JSON values. -/
def valueItems? : List Node → Option (List Value)
  | [] => some []
  | n :: rest => do return (← value? n) :: (← valueItems? rest)

/-- The entries as the fields of a JSON object. -/
def valueEntries? : List (Node × Node) → Option (List (String × Value))
  | [] => some []
  | (k, n) :: rest => do return (← k.text?, ← value? n) :: (← valueEntries? rest)

end

mutual

/-- A JSON value as a node, all typed. -/
def ofValue : Value → Node
  | .null => .scalar .null
  | .bool b => .scalar (.bool b)
  | .number (.int i) => .scalar (.int i)
  | .number (.float x) => .scalar (.float (.finite x))
  | .string s => .scalar (.text s)
  | .array items => .list (ofValues items) .value
  | .object fields => .map (ofFields fields) .value

/-- JSON values as nodes. -/
def ofValues : List Value → List Node
  | [] => []
  | v :: rest => ofValue v :: ofValues rest

/-- The fields of a JSON object as entries. -/
def ofFields : List (String × Value) → List (Node × Node)
  | [] => []
  | (k, v) :: rest => (.scalar (.text k), ofValue v) :: ofFields rest

end

mutual

/-- How deep lists and maps lie inside each other. -/
def depth : Node → Nat
  | .list items _ => depthItems items + 1
  | .map entries _ => depthEntries entries + 1
  | _ => 0

/-- How deep lists and maps lie inside the items. -/
def depthItems : List Node → Nat
  | [] => 0
  | n :: rest => max (depth n) (depthItems rest)

/-- How deep lists and maps lie inside the entries. -/
def depthEntries : List (Node × Node) → Nat
  | [] => 0
  | (k, n) :: rest => max (max (depth k) (depth n)) (depthEntries rest)

end

end Node

end Runbook
