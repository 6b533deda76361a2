import Runbook.Shell.Call
import Runbook.Shell.Edit.Run

/-!
# The program that calculates

Calculations whose numbers, texts and operators are words of their own.

* `applyOperator` is the value of an operator between two values;
* `readOperators` reads a calculation with operators of a level and of the tighter ones, and gives
  its value;
* `expr` writes the value of its arguments.
-/

namespace Runbook.Shell

namespace Utility

/-- Why a calculation has no value. -/
inductive CalcFault where
  /-- Nothing follows a word. -/
  | missingAfter (word : String)
  /-- A word cannot stand there. -/
  | unexpected (word : String)
  /-- A bracket is not closed before the end. -/
  | openAtEnd (last : String)
  /-- A bracket is not closed where a word stands. -/
  | openBefore (word : String)
  /-- A bracket was not opened. -/
  | closed
  /-- A value should be a number. -/
  | notNumber
  /-- A number is divided by zero. -/
  | divisionByZero
  /-- A pattern cannot be read. -/
  | pattern (fault : PatternFault)
  deriving DecidableEq, Repr

/-- How the fault is told. -/
def CalcFault.message : CalcFault → String
  | .missingAfter word => s!"syntax error: missing argument after '{word}'"
  | .unexpected word => s!"syntax error: unexpected argument '{word}'"
  | .openAtEnd last => s!"syntax error: expecting ')' after '{last}'"
  | .openBefore word => s!"syntax error: expecting ')' instead of '{word}'"
  | .closed => "syntax error: unexpected ')'"
  | .notNumber => "non-integer argument"
  | .divisionByZero => "division by zero"
  | .pattern fault => fault.message

/-- The whole number that a value is. -/
def wholeNumber? (text : String) : Option Int :=
  match text.toList with
  | '-' :: ds => if ds.isEmpty then none else (Decimal.readNat? ds).map (fun n => -(n : Int))
  | ds => if ds.isEmpty then none else (Decimal.readNat? ds).map Int.ofNat

/-- Whether a value counts as nothing: the empty text and zero do. -/
def isNothing (text : String) : Bool :=
  match text.toList with
  | [] => true
  | '-' :: ds => !ds.isEmpty && ds.all (· == '0')
  | ds => ds.all (· == '0')

/-- A text as bytes. -/
def asBytes (text : String) : List Char := Edit.ofBytes (Utf8.encode text)

/-- Bytes as a text. -/
def ofBytesText (cs : List Char) : String := Utf8.decodeLossy (Edit.toBytes cs)

/-- What a pattern matches at the beginning of a text: the first group in it, or the number of
bytes. -/
def matchValue (text pattern : String) : Except CalcFault String :=
  match LinePattern.read ⟨false, false⟩ (asBytes pattern) with
  | .error fault => .error (.pattern fault)
  | .ok pattern =>
    let cs := asBytes text
    match pattern.longest? ⟨false, false⟩ cs (.at_ cs 0) with
    | none => .ok (if pattern.groups = 0 then "0" else "")
    | some found =>
      if pattern.groups = 0 then .ok (toString found.last.index)
      else .ok (ofBytesText (found.last.remembered cs 1))

/-- The value of an operator between two values. -/
def applyOperator (op left right : String) : Except CalcFault String :=
  let order := match wholeNumber? left, wholeNumber? right with
    | some x, some y => Ord.compare x y
    | _, _ => Ord.compare left right
  let truth (b : Bool) : Except CalcFault String := .ok (if b then "1" else "0")
  let onNumbers (f : Int → Int → Except CalcFault Int) : Except CalcFault String :=
    match wholeNumber? left, wholeNumber? right with
    | some x, some y => (f x y).map toString
    | _, _ => .error .notNumber
  match op with
  | "|" => .ok (if !isNothing left then left else if !isNothing right then right else "0")
  | "&" => .ok (if isNothing left || isNothing right then "0" else left)
  | "<" => truth (order == .lt)
  | "<=" => truth (order != .gt)
  | "=" | "==" => truth (order == .eq)
  | "!=" => truth (order != .eq)
  | ">=" => truth (order != .lt)
  | ">" => truth (order == .gt)
  | "+" => onNumbers (fun x y => .ok (x + y))
  | "-" => onNumbers (fun x y => .ok (x - y))
  | "*" => onNumbers (fun x y => .ok (x * y))
  | "/" => onNumbers (fun x y => if y = 0 then .error .divisionByZero else .ok (x.tdiv y))
  | "%" => onNumbers (fun x y => if y = 0 then .error .divisionByZero else .ok (x.tmod y))
  | ":" => matchValue left right
  | op => .error (.unexpected op)

/-- The operators, those that bind tighter later. -/
def operatorLevels : List (List String) :=
  [["|"], ["&"], ["<", "<=", "=", "==", "!=", ">=", ">"], ["+", "-"], ["*", "/", "%"], [":"]]

/-- Whether the value to the right of an operator matters, given the one to the left. -/
def needsRight (op left : String) : Bool :=
  match op with
  | "|" => isNothing left
  | "&" => !isNothing left
  | _ => true

/-- The place of the first of some bytes in a text, counted from one; zero if there is none. -/
def firstOf (text set : String) : Nat :=
  match (asBytes text).findIdx? ((asBytes set).contains ·) with
  | some n => n + 1
  | none => 0

/-- So many bytes of a text from a place on, counted from one. -/
def partOf (text place count : String) : String :=
  match wholeNumber? place, wholeNumber? count with
  | some p, some n =>
    if p ≤ 0 || n ≤ 0 then ""
    else ofBytesText (((asBytes text).drop (p - 1).toNat).take n.toNat)
  | _, _ => ""

/-- The words of a calculation: the last one that was read, and those that are left. -/
structure CalcWords where
  /-- The last word that was read. -/
  last : String
  /-- The words that are left. -/
  left : List String

/-- Reads a word. -/
def CalcWords.read (words : CalcWords) : Except CalcFault (String × CalcWords) :=
  match words.left with
  | [] => .error (.missingAfter words.last)
  | word :: left => .ok (word, ⟨word, left⟩)

/-- Reads a part of a calculation and gives its value; only a `live` part can have a fault other
than of its words. -/
abbrev CalcReader := (live : Bool) → CalcWords → Except CalcFault (String × CalcWords)

mutual

/-- Reads a calculation with operators of a level and the levels after it; `fuel` is more than
twenty times the number of words. -/
def readOperators : (fuel : Nat) → (level : Nat) → CalcReader
  | 0, _, _, words => .error (.missingAfter words.last)
  | fuel + 1, level, live, words =>
    if operatorLevels.length ≤ level then readFunction fuel live words
    else do
      let (left, words) ← readOperators fuel (level + 1) live words
      readMoreOperators fuel level left live words

/-- Reads the operators of a level after a value. -/
def readMoreOperators : (fuel : Nat) → (level : Nat) → (value : String) → CalcReader
  | 0, _, _, _, words => .error (.missingAfter words.last)
  | fuel + 1, level, value, live, words =>
    match words.left with
    | [] => .ok (value, words)
    | op :: rest =>
      if ((operatorLevels[level]?).getD []).contains op then do
        let matters := live && needsRight op value
        let (right, words) ← readOperators fuel (level + 1) matters ⟨op, rest⟩
        let value ← if live then applyOperator op value right else pure value
        readMoreOperators fuel level value live words
      else .ok (value, words)

/-- Reads a function with its values, or a value. -/
def readFunction : (fuel : Nat) → CalcReader
  | 0, _, words => .error (.missingAfter words.last)
  | fuel + 1, live, words => do
    let (word, after) ← words.read
    match word with
    | "+" => after.read
    | "length" =>
      let (text, words) ← readFunction fuel live after
      return (toString (asBytes text).length, words)
    | "match" =>
      let (text, words) ← readFunction fuel live after
      let (pattern, words) ← readFunction fuel live words
      return (← if live then matchValue text pattern else pure text, words)
    | "index" =>
      let (text, words) ← readFunction fuel live after
      let (set, words) ← readFunction fuel live words
      return (toString (firstOf text set), words)
    | "substr" =>
      let (text, words) ← readFunction fuel live after
      let (place, words) ← readFunction fuel live words
      let (count, words) ← readFunction fuel live words
      return (partOf text place count, words)
    | "(" =>
      let (value, words) ← readOperators fuel 0 live after
      match words.left with
      | [] => throw (.openAtEnd words.last)
      | ")" :: left => return (value, ⟨")", left⟩)
      | other :: _ => throw (.openBefore other)
    | ")" => throw .closed
    | word => return (word, after)

end

/-- The value of a calculation. -/
def calculate (words : List String) : Except CalcFault String := do
  let (value, words) ← readOperators (20 * words.length + 20) 0 true ⟨"", words⟩
  match words.left with
  | [] => return value
  | word :: _ => throw (.unexpected word)

/-- Calculates; the exit code tells zero and nothing from anything else. -/
def expr : Utility := fun call m =>
  let words := if call.args.head? = some "--" then call.args.drop 1 else call.args
  if words.isEmpty then (2, (refuse call m "missing operand").2)
  else match calculate words with
    | .ok value => (if isNothing value then 1 else 0, m.say call.fds (value ++ "\n"))
    | .error fault => (2, complain call m fault.message)

end Utility

end Runbook.Shell
