import Runbook.Number.Decimal
import Runbook.Shell.Reader
import Runbook.Text.Blank

/-!
# Whole-number expressions

The expressions between doubled brackets: numbers of 64 bits and variables, with the operators of
the C family.

* `SumToken` is a token of an expression, `SumExpr` is an expression;
* `readSum` reads an expression, `SumExpr.eval` gives it its value and makes its assignments;
* `evalSum` does both.
-/

namespace Runbook.Shell

/-- A token of an expression. -/
inductive SumToken where
  /-- A number. -/
  | number (n : Int)
  /-- A variable. -/
  | name (name : String)
  /-- An operator or a bracket. -/
  | op (symbol : String)
  /-- An operator that changes a variable by another one, or just sets it. -/
  | change (symbol : Option String)
  /-- A character that is no part of an expression. -/
  | other
  deriving DecidableEq, Repr

/-- The operators and brackets, a longer one before its beginning. -/
def sumOperators : List String :=
  ["<<", ">>", "<=", ">=", "==", "!=", "&&", "||", "<", ">", "+", "-", "*", "/", "%", "&", "|", "^",
    "~", "!", "(", ")", "?", ":"]

/-- The operators that can change a variable. -/
def changingOperators : List String := ["<<", ">>", "+", "-", "*", "/", "%", "&", "|", "^"]

/-- How tightly an operator between two values binds. -/
def sumPrecedence? (symbol : String) : Option Nat :=
  match symbol with
  | "||" => some 1
  | "&&" => some 2
  | "|" => some 3
  | "^" => some 4
  | "&" => some 5
  | "==" | "!=" => some 6
  | "<" | ">" | "<=" | ">=" => some 7
  | "<<" | ">>" => some 8
  | "+" | "-" => some 9
  | "*" | "/" | "%" => some 10
  | _ => none

/-- A number as one of 64 bits. -/
def wrap64 (n : Int) : Int := Int.bmod n (twoTo 64)

/-- The number of 64 bits that is nearest to a number. -/
def clamp64 (n : Int) : Int := max (-twoTo 63) (min (twoTo 63 - 1) n)

/-- The number that the text begins with in base 10, 8 or 16, and the rest; the text begins with a
digit. -/
def splitNumber (cs : List Char) : Nat × List Char :=
  let isHex (c : Char) : Bool := (Decimal.readNatIn? 16 [c]).isSome
  let isOctal (c : Char) : Bool := '0' ≤ c && c ≤ '7'
  let inBase (base : Nat) (isIn : Char → Bool) (cs : List Char) : Nat × List Char :=
    ((Decimal.readNatIn? base (cs.takeWhile isIn)).getD 0, cs.dropWhile isIn)
  match cs with
  | '0' :: x :: d :: rest =>
    if (x = 'x' || x = 'X') && isHex d then inBase 16 isHex (d :: rest) else inBase 8 isOctal cs
  | '0' :: _ => inBase 8 isOctal cs
  | cs => inBase 10 isDigit cs

/-- The operator that the text begins with, and the rest. -/
def splitOperator (cs : List Char) : SumToken × List Char :=
  let begins (s : String) : Bool := s.toList.isPrefixOf cs
  match changingOperators.find? (fun s => begins (s ++ "=")), sumOperators.find? begins with
  | some symbol, _ => (.change (some symbol), cs.drop (symbol.length + 1))
  | none, some symbol => (.op symbol, cs.drop symbol.length)
  | none, none => (if cs.head? = some '=' then .change none else .other, cs.drop 1)

/-- The tokens of a text; `fuel` is at least its length. -/
def sumTokens : (fuel : Nat) → List Char → List SumToken
  | 0, _ => []
  | _ + 1, [] => []
  | fuel + 1, c :: rest =>
    if c = ' ' || c = '\t' || c = '\n' then sumTokens fuel rest
    else if isDigit c then
      let (n, rest) := splitNumber (c :: rest)
      .number (clamp64 n) :: sumTokens fuel rest
    else if startsName c then
      .name (String.ofList ((c :: rest).takeWhile inName)) ::
        sumTokens fuel ((c :: rest).dropWhile inName)
    else
      let (token, rest) := splitOperator (c :: rest)
      token :: sumTokens fuel rest

/-- Why an expression has no value. -/
inductive SumFault where
  /-- Something else should stand there. -/
  | expecting (what : String)
  /-- It divides by zero. -/
  | divisionByZero
  /-- A variable is not a number. -/
  | notNumber (text : String)
  deriving DecidableEq, Repr

/-- The message for a fault in an expression. -/
def SumFault.message (text : String) : SumFault → String
  | .expecting what => "arithmetic expression: expecting " ++ what ++ ": " ++ doubleQuotes text
  | .divisionByZero => "arithmetic expression: division by zero: " ++ doubleQuotes text
  | .notNumber value => "Illegal number: " ++ value

/-! ## Reading -/

/-- An expression. -/
inductive SumExpr where
  /-- A number. -/
  | number (n : Int)
  /-- A variable. -/
  | name (name : String)
  /-- An operator before a value. -/
  | unary (symbol : String) (x : SumExpr)
  /-- An operator between two values. -/
  | binary (symbol : String) (x y : SumExpr)
  /-- A choice. -/
  | choice (test yes no : SumExpr)
  /-- A change of a variable, by an operator or without one. -/
  | assign (name : String) (symbol : Option String) (value : SumExpr)
  deriving DecidableEq, Repr

/-- What is read of an expression, and the tokens after it. -/
abbrev SumReader := List SumToken → Except SumFault (SumExpr × List SumToken)

mutual

/-- Reads an expression; `fuel` is more than twenty times the number of tokens. -/
def readSum : (fuel : Nat) → SumReader
  | 0, _ => .error (.expecting "primary")
  | fuel + 1, .name name :: .change symbol :: rest => do
    let (value, rest) ← readSum fuel rest
    return (.assign name symbol value, rest)
  | fuel + 1, tokens => readChoice fuel tokens

/-- Reads an expression that is no assignment. -/
def readChoice : (fuel : Nat) → SumReader
  | 0, _ => .error (.expecting "primary")
  | fuel + 1, tokens => do
    let (test, rest) ← readBinary fuel 1 tokens
    match rest with
    | .op "?" :: rest =>
      let (yes, rest) ← readSum fuel rest
      match rest with
      | .op ":" :: rest =>
        let (no, rest) ← readChoice fuel rest
        return (.choice test yes no, rest)
      | _ => throw (.expecting "':'")
    | rest => return (test, rest)

/-- Reads values with operators between them that bind at least as tightly as a precedence. -/
def readBinary : (fuel : Nat) → (precedence : Nat) → SumReader
  | 0, _, _ => .error (.expecting "primary")
  | fuel + 1, precedence, tokens => do
    let (first, rest) ← readPrimary fuel tokens
    readMore fuel precedence first rest

/-- Reads the operators after a value that bind at least as tightly as a precedence. -/
def readMore : (fuel : Nat) → (precedence : Nat) → SumExpr → SumReader
  | 0, _, _, _ => .error (.expecting "primary")
  | fuel + 1, precedence, first, tokens =>
    match tokens with
    | .op symbol :: rest =>
      match sumPrecedence? symbol with
      | some p =>
        if precedence ≤ p then do
          let (second, rest) ← readBinary fuel (p + 1) rest
          readMore fuel precedence (.binary symbol first second) rest
        else .ok (first, tokens)
      | none => .ok (first, tokens)
    | tokens => .ok (first, tokens)

/-- Reads a value. -/
def readPrimary : (fuel : Nat) → SumReader
  | 0, _ => .error (.expecting "primary")
  | fuel + 1, tokens =>
    match tokens with
    | .number n :: rest => .ok (.number n, rest)
    | .name name :: rest => .ok (.name name, rest)
    | .op "(" :: rest => do
      let (x, rest) ← readSum fuel rest
      match rest with
      | .op ")" :: rest => return (x, rest)
      | _ => throw (.expecting "')'")
    | .op symbol :: rest =>
      if ["-", "+", "!", "~"].contains symbol then do
        let (x, rest) ← readPrimary fuel rest
        return (.unary symbol x, rest)
      else .error (.expecting "primary")
    | _ => .error (.expecting "primary")

end

/-! ## Values -/

/-- A truth value as a number. -/
def ofTruth (b : Bool) : Int := if b then 1 else 0

/-- The value of an operator between two values. -/
def applySum (symbol : String) (x y : Int) : Except SumFault Int :=
  match symbol with
  | "||" => .ok (ofTruth (x != 0 || y != 0))
  | "&&" => .ok (ofTruth (x != 0 && y != 0))
  | "|" => .ok (Int64.ofInt x ||| Int64.ofInt y).toInt
  | "^" => .ok (Int64.ofInt x ^^^ Int64.ofInt y).toInt
  | "&" => .ok (Int64.ofInt x &&& Int64.ofInt y).toInt
  | "==" => .ok (ofTruth (x == y))
  | "!=" => .ok (ofTruth (x != y))
  | "<" => .ok (ofTruth (x < y))
  | ">" => .ok (ofTruth (y < x))
  | "<=" => .ok (ofTruth (x ≤ y))
  | ">=" => .ok (ofTruth (y ≤ x))
  | "<<" => .ok (wrap64 (x * twoTo (y % 64).toNat))
  | ">>" => .ok (x / twoTo (y % 64).toNat)
  | "+" => .ok (wrap64 (x + y))
  | "-" => .ok (wrap64 (x - y))
  | "*" => .ok (wrap64 (x * y))
  | "/" => if y = 0 then .error .divisionByZero else .ok (wrap64 (x.tdiv y))
  | "%" => if y = 0 then .error .divisionByZero else .ok (x.tmod y)
  | _ => .error (.expecting "EOF")

/-- The value of an operator before a value. -/
def applyUnary (symbol : String) (x : Int) : Int :=
  match symbol with
  | "-" => wrap64 (-x)
  | "!" => ofTruth (x == 0)
  | "~" => -x - 1
  | _ => x

/-- The number that the value of a variable is. -/
def sumVariable (value : Option String) : Except SumFault Int :=
  let text := value.getD ""
  let cs := trim text.toList
  let negative := cs.head? = some '-'
  let digits := if negative || cs.head? = some '+' then cs.drop 1 else cs
  if cs.isEmpty then .ok 0
  else if digits.head?.all (fun c => !isDigit c) then .error (.notNumber text)
  else match splitNumber digits with
    | (n, []) => .ok (clamp64 (if negative then -(n : Int) else n))
    | _ => .error (.notNumber text)

/-- The variables of an expression. -/
structure SumScope where
  /-- The values before it. -/
  before : String → Option String
  /-- The variables that it has changed, the last one first. -/
  changed : List (String × Int)

/-- The number that a variable is. -/
def SumScope.number (scope : SumScope) (name : String) : Except SumFault Int :=
  match scope.changed.find? (fun (n, _) => n == name) with
  | some (_, value) => .ok value
  | none => sumVariable (scope.before name)

/-- The value of an expression, with the variables that it changes; `&&`, `||` and choices leave
alone what does not matter. -/
def SumExpr.eval : SumExpr → StateT SumScope (Except SumFault) Int
  | .number n => return n
  | .name key => do (← get).number key
  | .unary symbol x => return applyUnary symbol (← x.eval)
  | .binary "&&" x y => do
    if (← x.eval) = 0 then return 0 else return ofTruth ((← y.eval) != 0)
  | .binary "||" x y => do
    if (← x.eval) = 0 then return ofTruth ((← y.eval) != 0) else return 1
  | .binary symbol x y => do
    let a ← x.eval
    applySum symbol a (← y.eval)
  | .choice test yes no => do
    if (← test.eval) = 0 then no.eval else yes.eval
  | .assign key symbol value => do
    let new ← match symbol with
      | none => value.eval
      | some symbol => do
        let old ← (← get).number key
        applySum symbol old (← value.eval)
    modify (fun scope => { scope with changed := (key, new) :: scope.changed })
    return new

/-- The value of an expression, given the variables, and the variables that it changes, the last one
first. -/
def evalSum (lookUp : String → Option String) (text : String) :
    Except SumFault (Int × List (String × Int)) := do
  let tokens := sumTokens (text.length + 1) text.toList
  let (expr, rest) ← readSum (20 * tokens.length + 20) tokens
  if !rest.isEmpty then throw (.expecting "EOF")
  let (value, scope) ← expr.eval ⟨lookUp, []⟩
  return (value, scope.changed)

end Runbook.Shell
