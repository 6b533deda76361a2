import Runbook.Definition.Basic
import Runbook.Pattern.Search
import Runbook.Variables

/-!
# Checking inputs

An input is brought to the type that its schema asks for, a text being read as that type where its
meaning is plain, and then compared with the values and the pattern that the schema allows.

* `InputType.coerce` brings a value to a type;
* `InputSchema.check` gives the value in its final form, or why it is not allowed.
-/

namespace Runbook

/-- Why a value is not of the type. -/
def InputType.mismatch (type : InputType) (v : Value) : String :=
  "expected " ++ type.name ++ ", got " ++ v.compact

/-- The truth value that a text is a word for, in any letter case and with blanks around it. -/
def readTruth? (s : String) : Option Bool :=
  let word := lowercase (trim s.toList)
  if word = "true".toList then some true
  else if word = "false".toList then some false
  else none

/-- A value brought to a type, if it can be. -/
def InputType.coerce? : InputType → Value → Option Value
  | .string, .string s => some (.string s)
  | .string, .number n => some (.string n.text)
  | .string, .bool b => some (.string (Value.bool b).text)
  | .number, .number n => some (.number n)
  | .number, .string s =>
    ((Decimal.readFloat? (trim s.toList)).bind (·.finite?)).map (fun x => .number (.float x))
  | .integer, .number (.int i) => some (.int i)
  | .integer, .string s => (Decimal.readInt64? (trim s.toList)).map .int
  | .boolean, .bool b => some (.bool b)
  | .boolean, .string s => (readTruth? s).map .bool
  | .array, .array items => some (.array items)
  | .array, .string s =>
    match Json.parse? (trimmed s) with
    | some (.array items) => some (.array items)
    | _ => none
  | .object, .object fields => some (.object fields)
  | .object, .string s =>
    match Json.parse? (trimmed s) with
    | some (.object fields) => some (.object fields)
    | _ => none
  | _, _ => none

/-- A value brought to a type, or why it cannot be. -/
def InputType.coerce (type : InputType) (v : Value) : Except String Value :=
  match type.coerce? v with
  | some w => .ok w
  | none => .error (type.mismatch v)

/-- Whether a value is one of those allowed, by itself or by its text. -/
def isAllowed (allowed : List Value) (v : Value) : Bool :=
  allowed.any (fun a => a.same v || a.text == v.text)

namespace InputSchema

/-- Brings a value to the type, if there is one. -/
def coerce (schema : InputSchema) (v : Value) : Except String Value :=
  match schema.type with
  | some type => type.coerce v
  | none => .ok v

/-- Compares a value with those allowed. -/
def checkAllowed (schema : InputSchema) (v : Value) : Except String Unit :=
  match schema.allowed with
  | none => .ok ()
  | some allowed =>
    if isAllowed allowed v then .ok ()
    else
      let choices := ", ".intercalate (allowed.map Value.text)
      .error ("'" ++ v.text ++ "' is not one of [" ++ choices ++ "]")

/-- Searches a value's text for the pattern. -/
def checkPattern (schema : InputSchema) (v : Value) : Except String Unit :=
  match schema.pattern with
  | none => .ok ()
  | some pattern =>
    match Pattern.search pattern v.text with
    | .ok true => .ok ()
    | .ok false => .error ("'" ++ v.text ++ "' does not match /" ++ pattern ++ "/")
    | .error message => .error ("invalid pattern '" ++ pattern ++ "': " ++ message)

/-- The value in its final form, or why it is not allowed. -/
def check (schema : InputSchema) (v : Value) : Except String Value := do
  let v ← schema.coerce v
  schema.checkAllowed v
  schema.checkPattern v
  return v

end InputSchema

end Runbook
