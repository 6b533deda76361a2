import Runbook.Number.Decimal
import Runbook.Shell.Machine
import Runbook.Text.Blank

/-!
# Tests

The tests that scripts make on texts, numbers and files.

* `binaryTest` and `unaryTest` are the tests that operators make;
* `TestToken` is what a word is, and `readEither`, `readBoth` and `readNegated` put tests together;
* `evalTest` gives the words of a test their truth value.
-/

namespace Runbook.Shell

/-- Why a test has no truth value. -/
inductive TestFault where
  /-- An operator lacks the word after it. -/
  | lacksArgument (operator : String)
  /-- A bracket is not closed. -/
  | notClosed
  /-- A word cannot stand there. -/
  | unexpected (word : String)
  /-- A word should be a number. -/
  | notNumber (word : String)
  deriving DecidableEq, Repr

/-- How the fault is told. -/
def TestFault.message : TestFault → String
  | .lacksArgument operator => s!"{operator}: argument expected"
  | .notClosed => "closing paren expected"
  | .unexpected word => if word.isEmpty then "unexpected operator" else s!"{word}: unexpected operator"
  | .notNumber word => s!"Illegal number: {word}"

/-! ## Operators -/

/-- The operators between two words. -/
def binaryOperators : List String :=
  ["=", "!=", "<", ">", "-eq", "-ne", "-gt", "-ge", "-lt", "-le", "-nt", "-ot", "-ef"]

/-- The operators of tests of one word. -/
def unaryOperators : List String :=
  ["-n", "-z", "-e", "-r", "-w", "-f", "-d", "-x", "-s", "-h", "-L", "-p", "-S", "-b", "-c", "-t",
    "-u", "-g", "-k", "-O", "-G"]

/-- The number that a word of a test is. -/
def testNumber (word : String) : Except TestFault Int :=
  match Decimal.readInt64? (trim word.toList) with
  | some n => .ok n
  | none => .error (.notNumber word)

/-- Whether two paths lead to one file. -/
def sameFile (fs : FileSystem) (left right : String) : Bool :=
  match fs.locate left, fs.locate right with
  | .ok a, .ok b => (fs.get? a).isSome && a == b
  | _, _ => false

/-- A test of two words. -/
def binaryTest (fs : FileSystem) (left op right : String) : Except TestFault Bool :=
  let numbers (p : Int → Int → Bool) : Except TestFault Bool := do
    let x ← testNumber left
    return p x (← testNumber right)
  match op with
  | "=" => .ok (left == right)
  | "!=" => .ok (left != right)
  | "<" => .ok (left < right)
  | ">" => .ok (right < left)
  | "-eq" => numbers (· == ·)
  | "-ne" => numbers (· != ·)
  | "-gt" => numbers (fun x y => y < x)
  | "-ge" => numbers (fun x y => y ≤ x)
  | "-lt" => numbers (fun x y => x < y)
  | "-le" => numbers (fun x y => x ≤ y)
  | "-nt" => .ok ((fs.find? left).isSome && (fs.find? right).isNone)
  | "-ot" => .ok ((fs.find? left).isNone && (fs.find? right).isSome)
  | "-ef" => .ok (sameFile fs left right)
  | op => .error (.unexpected op)

/-- Whether a node is a file that can be started, or a directory. -/
def canStart : FileNode → Bool
  | .file _ executable => executable
  | .directory _ => true

/-- Whether a node is a file that holds something, or a directory. -/
def holdsSomething : FileNode → Bool
  | .file content _ => !content.isEmpty
  | .directory _ => true

/-- A test of one word. -/
def unaryTest (fs : FileSystem) (op word : String) : Except TestFault Bool :=
  let isDevice := word = Machine.nullPath || word = Machine.zeroPath
  match op with
  | "-n" => .ok !word.isEmpty
  | "-z" => .ok word.isEmpty
  | "-e" | "-r" | "-w" | "-O" | "-G" => .ok (isDevice || (fs.find? word).isSome)
  | "-c" => .ok isDevice
  | "-f" => .ok (fs.isFile word)
  | "-d" => .ok (fs.isDirectory word)
  | "-x" => .ok ((fs.find? word).any canStart)
  | "-s" => .ok ((fs.find? word).any holdsSomething)
  | "-t" => do
    let _ ← testNumber word
    return false
  | _ => .ok false

/-! ## Reading -/

/-- What a word of a test is. -/
inductive TestToken where
  /-- There is no word. -/
  | ended
  /-- The word that turns a test around. -/
  | negation
  /-- The word between tests of which both have to hold. -/
  | both
  /-- The word between tests of which one has to hold. -/
  | either
  /-- The opening bracket. -/
  | opening
  /-- The closing bracket. -/
  | closing
  /-- An operator for the word after it. -/
  | unary
  /-- Any other word. -/
  | operand
  deriving DecidableEq, Repr

/-- What the first word is.  An operator with no word after it is no operator, nor is one in front
of an operator between two words. -/
def TestToken.ofWords : List String → TestToken
  | [] => .ended
  | "!" :: _ => .negation
  | "-a" :: _ => .both
  | "-o" :: _ => .either
  | ["("] => .operand
  | "(" :: _ => .opening
  | ")" :: _ => .closing
  | word :: rest =>
    if unaryOperators.contains word && !isOperand rest then .unary else .operand
where
  /-- Whether a word with these words after it is no operator. -/
  isOperand : List String → Bool
    | [] => true
    | [_] => false
    | next :: _ => binaryOperators.contains next

/-- What is read of a test: its truth value, and the words that begin with the last one read. -/
abbrev TestReader := List String → Except TestFault (Bool × List String)

/-- Reads a test that no operator stands before; the first word is an operand unless it is said to
be an operator. -/
def readOperand (fs : FileSystem) (isUnary : Bool) : TestReader := fun words =>
  match words with
  | [] => .ok (false, [])
  | [op] => if isUnary then .error (.lacksArgument op) else .ok (!op.isEmpty, words)
  | first :: second :: rest =>
    if isUnary then (unaryTest fs first second).map (·, second :: rest)
    else if binaryOperators.contains second then
      match rest with
      | [] => .error (.lacksArgument second)
      | third :: _ => (binaryTest fs first second third).map (·, rest)
    else .ok (!first.isEmpty, words)

mutual

/-- Reads tests of which one has to hold; `fuel` is more than four times the number of words. -/
def readEither (fs : FileSystem) : (fuel : Nat) → (isOperand : Bool) → TestReader
  | 0, _, words => .error (.unexpected (words.head?.getD ""))
  | fuel + 1, isOperand, words => do
    let (first, words) ← readBoth fs fuel isOperand words
    if TestToken.ofWords (words.drop 1) = .either then
      let (second, words) ← readEither fs fuel false (words.drop 2)
      return (first || second, words)
    else return (first, words)

/-- Reads tests of which all have to hold. -/
def readBoth (fs : FileSystem) : (fuel : Nat) → (isOperand : Bool) → TestReader
  | 0, _, words => .error (.unexpected (words.head?.getD ""))
  | fuel + 1, isOperand, words => do
    let (first, words) ← readNegated fs fuel isOperand words
    if TestToken.ofWords (words.drop 1) = .both then
      let (second, words) ← readBoth fs fuel false (words.drop 2)
      return (first && second, words)
    else return (first, words)

/-- Reads a test that may be turned around. -/
def readNegated (fs : FileSystem) : (fuel : Nat) → (isOperand : Bool) → TestReader
  | 0, _, words => .error (.unexpected (words.head?.getD ""))
  | fuel + 1, isOperand, words =>
    match if isOperand then .operand else TestToken.ofWords words with
    | .negation => do
      match words.drop 1 with
      | [] => return (true, words)
      | rest =>
        let (b, rest) ← readNegated fs fuel false rest
        return (!b, rest)
    | .opening => do
      match words.drop 1 with
      | ")" :: rest => return (false, ")" :: rest)
      | rest =>
        let (b, rest) ← readEither fs fuel false rest
        if TestToken.ofWords (rest.drop 1) = .closing then return (b, rest.drop 1)
        else throw .notClosed
    | token => readOperand fs (token = .unary) words

end

/-- The truth value of a test as a whole. -/
def readTest (fs : FileSystem) (isOperand : Bool) (words : List String) : Except TestFault Bool := do
  let (b, rest) ← readEither fs (4 * words.length + 8) isOperand words
  match rest with
  | word :: _ :: _ => throw (.unexpected word)
  | _ => return b

/-- The truth value of three words, and whether it is to be turned around.  An operator between two
words counts first, then brackets, and then the word that turns a test around. -/
def readThree (fs : FileSystem) (first second third : String) : Except TestFault Bool × Bool :=
  if binaryOperators.contains second then (readTest fs true [first, second, third], false)
  else if first = "(" && third = ")" then (readTest fs false [second], false)
  else if first = "!" then (readTest fs false [second, third], true)
  else (readTest fs false [first, second, third], false)

/-- The truth value of a test, or what is wrong with it. -/
def evalTest (fs : FileSystem) (words : List String) : Except TestFault Bool :=
  match words with
  | [] => .ok false
  | [first, second, third] =>
    let (value, isTurned) := readThree fs first second third
    value.map (· != isTurned)
  | ["!", first, second, third] => (readThree fs first second third).1.map not
  | ["(", first, second, ")"] => readTest fs false [first, second]
  | words => readTest fs false words

end Runbook.Shell
