import Runbook.Json.Value
import Runbook.Number.Shortest

/-!
# JSON text

Writing values.

* `Number.text` writes whole numbers in full and doubles with the fewest digits that read back;
* `Value.compact` writes a value without any space;
* `Value.pretty` writes one item a line, indented by two spaces a level;
* `Value.text` is the form that templates insert: nothing for null, a text as it is, and compact
  JSON for lists and maps.
-/

namespace Runbook

/-- Doubles are written positionally from `0.00001` to below `1e+16`, and an exponent has its
sign. -/
def numberLayout : Binary64.Layout := ⟨16, 4, "+"⟩

/-- The text of a number. -/
def Number.text : Number → String
  | .int i => toString i
  | .float x => x.render numberLayout

/-- The digit of a value below sixteen. -/
def hexDigit (n : Nat) : Char := (Nat.toDigits 16 n).headD '0'

/-- A character inside a quoted text: quotes, backslashes and control characters are escaped. -/
def escapeChar (c : Char) : List Char :=
  if c = '"' then ['\\', '"']
  else if c = '\\' then ['\\', '\\']
  else if c = '\n' then ['\\', 'n']
  else if c = '\r' then ['\\', 'r']
  else if c = '\t' then ['\\', 't']
  else if c = '\x08' then ['\\', 'b']
  else if c = '\x0c' then ['\\', 'f']
  else if c.toNat < 32 then ['\\', 'u', '0', '0', hexDigit (c.toNat / 16), hexDigit (c.toNat % 16)]
  else [c]

/-- A quoted text. -/
def quoted (s : String) : List Char := '"' :: s.toList.flatMap escapeChar ++ ['"']

namespace Value

mutual

/-- The characters of the compact form. -/
def compactChars : Value → List Char
  | .null => "null".toList
  | .bool true => "true".toList
  | .bool false => "false".toList
  | .number n => n.text.toList
  | .string s => quoted s
  | .array items => '[' :: compactItems items
  | .object fields => '\x7b' :: compactFields fields

/-- The items of a list, and its closing bracket. -/
def compactItems : List Value → List Char
  | [] => [']']
  | [v] => compactChars v ++ [']']
  | v :: rest => compactChars v ++ ',' :: compactItems rest

/-- The fields of a map, and its closing brace. -/
def compactFields : List (String × Value) → List Char
  | [] => ['\x7d']
  | [(k, v)] => quoted k ++ ':' :: (compactChars v ++ ['\x7d'])
  | (k, v) :: rest => quoted k ++ ':' :: (compactChars v ++ ',' :: compactFields rest)

end

/-- The compact form. -/
def compact (v : Value) : String := String.ofList v.compactChars

/-- A line break and the indentation of a level. -/
def newline (level : Nat) : List Char := '\n' :: List.replicate (2 * level) ' '

mutual

/-- The characters of the indented form, at a level. -/
def prettyChars (level : Nat) : Value → List Char
  | .array [] => ['[', ']']
  | .array (v :: rest) => '[' :: prettyItems level (v :: rest)
  | .object [] => ['\x7b', '\x7d']
  | .object (f :: rest) => '\x7b' :: prettyFields level (f :: rest)
  | .null => "null".toList
  | .bool b => compactChars (.bool b)
  | .number n => n.text.toList
  | .string s => quoted s

/-- The items of a list, each on a line, and its closing bracket. -/
def prettyItems (level : Nat) : List Value → List Char
  | [] => newline level ++ [']']
  | v :: rest =>
    newline (level + 1) ++ prettyChars (level + 1) v ++
      (if rest.isEmpty then [] else [',']) ++ prettyItems level rest

/-- The fields of a map, each on a line, and its closing brace. -/
def prettyFields (level : Nat) : List (String × Value) → List Char
  | [] => newline level ++ ['\x7d']
  | (k, v) :: rest =>
    newline (level + 1) ++ quoted k ++ [':', ' '] ++ prettyChars (level + 1) v ++
      (if rest.isEmpty then [] else [',']) ++ prettyFields level rest

end

/-- The indented form. -/
def pretty (v : Value) : String := String.ofList (v.prettyChars 0)

/-- The form in which a template inserts a value. -/
def text : Value → String
  | .null => ""
  | .bool true => "true"
  | .bool false => "false"
  | .number n => n.text
  | .string s => s
  | .array items => compact (.array items)
  | .object fields => compact (.object fields)

end Value

end Runbook
