import Runbook.Log
import Runbook.Number.Decimal
import Runbook.Text.Lowercase
import Runbook.Variables

/-!
# Conditions

A condition is a row of clauses joined by the words `and` and `or`, read from left to right
without precedence.  A clause is a comparison, a test for emptiness, or a lone placeholder or
quoted text, which holds unless it is empty, `false` or `0`.  Quotes and braces hide what stands
inside them; a quote opens only at the start of a word.

* `clauses` splits a text and reads each clause;
* `Clause.eval` is the value of one clause, or why it has none;
* `evaluate` counts a clause without a value as false; `evaluate?` gives the first such fault.
-/

namespace Runbook.Condition

/-- How a clause is joined to what stands before it. -/
inductive Conjunction where
  /-- Both sides have to hold. -/
  | and
  /-- One side has to hold. -/
  | or
  deriving DecidableEq, Repr

/-- How the two sides of a clause are compared. -/
inductive Operator where
  /-- The left side is blank. -/
  | isEmpty
  /-- The left side is not blank. -/
  | isNotEmpty
  /-- The right side is a part of the left side. -/
  | contains
  /-- The right side is no part of the left side. -/
  | notContains
  /-- The left side begins with the right side. -/
  | startsWith
  /-- The left side ends with the right side. -/
  | endsWith
  /-- The sides are the same number, or the same text but for blanks around it. -/
  | eq
  /-- The sides differ. -/
  | ne
  /-- The left number is the larger. -/
  | gt
  /-- The left number is not the smaller. -/
  | ge
  /-- The left number is the smaller. -/
  | lt
  /-- The left number is not the larger. -/
  | le
  deriving DecidableEq, Repr

/-- How an operator is written in a message. -/
def Operator.symbol : Operator → String
  | .isEmpty => "is empty"
  | .isNotEmpty => "is not empty"
  | .contains => "contains"
  | .notContains => "not contains"
  | .startsWith => "starts with"
  | .endsWith => "ends with"
  | .eq => "=="
  | .ne => "!="
  | .gt => ">"
  | .ge => ">="
  | .lt => "<"
  | .le => "<="

/-- How an operator is written in a condition. -/
structure Token where
  /-- Its text; a word operator has the blank before it. -/
  text : List Char
  /-- What it stands for. -/
  operator : Operator
  /-- Whether a blank or the end of the clause has to follow. -/
  word : Bool
  /-- Whether nothing but blanks may follow. -/
  unary : Bool

/-- The operators in the order in which they are tried. -/
def tokens : List Token :=
  [⟨" is not empty".toList, .isNotEmpty, true, true⟩,
    ⟨" is empty".toList, .isEmpty, true, true⟩,
    ⟨" not contains".toList, .notContains, true, false⟩,
    ⟨" contains".toList, .contains, true, false⟩,
    ⟨" starts with".toList, .startsWith, true, false⟩,
    ⟨" ends with".toList, .endsWith, true, false⟩,
    ⟨"==".toList, .eq, false, false⟩,
    ⟨"!=".toList, .ne, false, false⟩,
    ⟨">=".toList, .ge, false, false⟩,
    ⟨"<=".toList, .le, false, false⟩,
    ⟨">".toList, .gt, false, false⟩,
    ⟨"<".toList, .lt, false, false⟩]

/-- Why a clause has no value. -/
inductive Fault where
  /-- An order is asked of something that is no number. -/
  | nonNumeric (operator : Operator) (left right : String)
  /-- The clause is none of the forms. -/
  | malformed (clause : String)
  deriving DecidableEq, Repr

/-- The wording of a fault. -/
def Fault.text : Fault → String
  | .nonNumeric op left right =>
    s!"'{op.symbol}' needs numeric operands, got '{left}' and '{right}'"
  | .malformed clause =>
    s!"'{clause}' is neither a comparison, a single \x7bvar\x7d nor a quoted literal"

/-- A clause. -/
inductive Clause where
  /-- Two sides with an operator between them. -/
  | compare (left : List Char) (operator : Operator) (right : List Char)
  /-- Something that holds by itself or not. -/
  | truthy (text : List Char)
  /-- Anything else. -/
  | malformed (text : List Char)
  deriving DecidableEq, Repr

/-- Where in a clause the reader stands. -/
structure Place where
  /-- Whether a word can start here. -/
  wordStart : Bool
  /-- The quote that is open. -/
  quote : Option Char
  /-- How many braces are open. -/
  depth : Nat
  deriving DecidableEq, Repr

namespace Place

/-- The start of a clause. -/
def start : Place := ⟨true, none, 0⟩

/-- Whether the character is a quote. -/
def isQuote (c : Char) : Bool := c == '"' || c == '\''

/-- Whether the next character stands outside of quotes and braces and is itself neither. -/
def exposes (p : Place) (c : Char) : Bool :=
  p.quote.isNone && p.depth == 0 && !(p.wordStart && isQuote c) && c != '\x7b' && c != '\x7d'

/-- The place after a character. -/
def step (p : Place) (c : Char) : Place :=
  match p.quote with
  | some q => ⟨isBlank c, if c == q then none else some q, p.depth⟩
  | none =>
    if p.wordStart && isQuote c then ⟨isBlank c, some c, p.depth⟩
    else if c == '\x7b' then ⟨isBlank c, none, p.depth + 1⟩
    else if c == '\x7d' then ⟨isBlank c, none, p.depth - 1⟩
    else ⟨isBlank c, none, p.depth⟩

end Place

/-- What follows `word` at the start of the text, letters of either case counting as one. -/
def stripWord? : (word text : List Char) → Option (List Char)
  | [], text => some text
  | _ :: _, [] => none
  | w :: word, c :: text => if w.toLower = c.toLower then stripWord? word text else none

/-- What follows a word is no longer than the text. -/
theorem length_le_of_stripWord? {word text after : List Char}
    (h : stripWord? word text = some after) : after.length + word.length = text.length := by
  fun_induction stripWord? word text with
  | case1 text => simp_all
  | case2 => simp at h
  | case3 w word c text _ ih => simp only [List.length_cons]; have := ih h; omega
  | case4 => simp at h

/-- The conjunction at the start of the text, with a blank on either side, and what follows it. -/
def conjunction? (cs : List Char) : Option (Conjunction × List Char) :=
  match stripWord? " and ".toList cs with
  | some after => some (.and, after)
  | none => (stripWord? " or ".toList cs).map (fun after => (.or, after))

/-- What follows a conjunction is shorter than the text. -/
theorem length_lt_of_conjunction? {cs after : List Char} {c : Conjunction}
    (h : conjunction? cs = some (c, after)) : after.length < cs.length := by
  unfold conjunction? at h
  split at h
  · next rest heq =>
    obtain ⟨-, rfl⟩ := Prod.mk.inj (Option.some.inj h)
    have := length_le_of_stripWord? heq
    have : " and ".toList.length = 5 := rfl
    omega
  · obtain ⟨rest, heq, h⟩ := Option.map_eq_some_iff.1 h
    obtain ⟨-, rfl⟩ := Prod.mk.inj h
    have := length_le_of_stripWord? heq
    have : " or ".toList.length = 4 := rfl
    omega

/-- Splits a text at its conjunctions.  `before` is the clause read so far, last character first,
and `conj` the conjunction in front of it. -/
def splitFrom (conj : Option Conjunction) (before : List Char) (place : Place) :
    List Char → List (Option Conjunction × List Char)
  | [] => [(conj, before.reverse)]
  | c :: rest =>
    match _h : if place.exposes c then conjunction? (c :: rest) else none with
    | some (next, after) => (conj, before.reverse) :: splitFrom (some next) [] .start after
    | none => splitFrom conj (c :: before) (place.step c) rest
termination_by cs => cs.length
decreasing_by
  · split at _h
    · exact length_lt_of_conjunction? _h
    · simp at _h
  · simp

/-- The clauses of a text, each with the conjunction before it. -/
def split (cs : List Char) : List (Option Conjunction × List Char) := splitFrom none [] .start cs

/-- What follows the operator, if it stands at the start of the text. -/
def Token.strip? (token : Token) (cs : List Char) : Option (List Char) :=
  match stripWord? token.text cs with
  | none => none
  | some after =>
    if token.word && !(after.head?.all isBlank) then none
    else if token.unary && !(after.all isBlank) then none
    else some after

/-- The operator at the start of the text, and what follows it. -/
def operator? (cs : List Char) : Option (Operator × List Char) :=
  tokens.findSome? (fun token => (token.strip? cs).map (fun after => (token.operator, after)))

/-- The first operator that no quotes or braces hide, with what stands before and after it. -/
def findOperator (before : List Char) (place : Place) :
    List Char → Option (List Char × Operator × List Char)
  | [] => none
  | c :: rest =>
    match if place.exposes c then operator? (c :: rest) else none with
    | some (op, after) => some (before.reverse, op, after)
    | none => findOperator (c :: before) (place.step c) rest

/-- What stands between a pair of the quotes given, if the text begins and ends with them. -/
def between? (q : Char) : List Char → Option (List Char)
  | [] => none
  | c :: rest =>
    if c = q ∧ rest.getLast? = some q then some rest.dropLast else none

/-- Whether the text is one quoted text. -/
def isQuoted (cs : List Char) : Bool :=
  ['"', '\''].any (fun q => (between? q cs).any (fun inner => !inner.contains q))

/-- The text without blanks around it and without a pair of quotes. -/
def unquote (cs : List Char) : List Char :=
  let cs := trim cs
  match between? '"' cs with
  | some inner => inner
  | none => (between? '\'' cs).getD cs

/-- Reads a clause. -/
def parseClause (cs : List Char) : Clause :=
  match findOperator [] .start cs with
  | some (left, op, right) => .compare (trim left) op (trim right)
  | none =>
    let text := trim cs
    if (Template.onlyPath? (Template.pieces text)).isSome || isQuoted text then .truthy text
    else .malformed text

/-- The clauses of a condition. -/
def clauses (text : String) : List (Option Conjunction × Clause) :=
  (split text.toList).map (fun (conj, cs) => (conj, parseClause cs))

/-- Whether one text is a part of another. -/
def isPart (part : List Char) : List Char → Bool
  | [] => part.isEmpty
  | c :: rest => part.isPrefixOf (c :: rest) || isPart part rest

/-- The finite number that the text is, but for blanks around it. -/
def number? (cs : List Char) : Option Binary64 :=
  (Decimal.readFloat? (trim cs)).bind (·.finite?)

/-- Whether the order is one that the operator asks for. -/
def Operator.accepts : Operator → Ordering → Bool
  | .eq, o => o.isEq
  | .ne, o => o.isNe
  | .gt, o => o.isGT
  | .ge, o => o.isGE
  | .lt, o => o.isLT
  | .le, o => o.isLE
  | _, _ => false

/-- Compares two filled sides. -/
def compare (left : List Char) (op : Operator) (right : List Char) : Except Fault Bool :=
  match op with
  | .isEmpty => .ok (trim left).isEmpty
  | .isNotEmpty => .ok !(trim left).isEmpty
  | .contains => .ok (isPart (lowercase right) (lowercase left))
  | .notContains => .ok !(isPart (lowercase right) (lowercase left))
  | .startsWith => .ok ((lowercase right).isPrefixOf (lowercase left))
  | .endsWith => .ok ((lowercase right).isSuffixOf (lowercase left))
  | .eq =>
    match number? left, number? right with
    | some x, some y => .ok (op.accepts (x.compare y))
    | _, _ => .ok (trim left == trim right)
  | .ne =>
    match number? left, number? right with
    | some x, some y => .ok (op.accepts (x.compare y))
    | _, _ => .ok (trim left != trim right)
  | .gt | .ge | .lt | .le =>
    match number? left, number? right with
    | some x, some y => .ok (op.accepts (x.compare y))
    | _, _ => .error (.nonNumeric op (String.ofList left) (String.ofList right))

/-- Whether a filled text holds by itself. -/
def holds (cs : List Char) : Bool :=
  let cs := trim cs
  !(cs.isEmpty || Decimal.lowerAscii cs == "false".toList || cs == ['0'])

/-- A side of a clause, filled. -/
def operand (vars : Variables) (cs : List Char) : List Char :=
  Template.fill vars.rendered (unquote cs)

/-- The value of a clause, or why it has none. -/
def Clause.eval (vars : Variables) : Clause → Except Fault Bool
  | .truthy text => .ok (holds (operand vars text))
  | .malformed text => .error (.malformed (String.ofList text))
  | .compare left op right => Condition.compare (operand vars left) op (operand vars right)

/-- Joins the value of one more clause to that of the clauses before it. -/
def join (before : Option Bool) (conj : Option Conjunction) (value : Bool) : Bool :=
  match before, conj with
  | none, _ => value
  | some b, some .or => b || value
  | some b, _ => b && value

/-- Joins the values of all clauses from left to right. -/
def combine (values : List (Option Conjunction × Bool)) : Bool :=
  (values.foldl (fun acc (conj, value) => some (join acc conj value)) none).getD false

/-- The clauses of a condition with their values or faults. -/
def outcomes (vars : Variables) (text : String) :
    List (Option Conjunction × Except Fault Bool) :=
  (clauses text).map (fun (conj, clause) => (conj, clause.eval vars))

/-- A fault counts as false. -/
def orFalse : Except Fault Bool → Bool
  | .ok b => b
  | .error _ => false

/-- Why a clause has no value, if it has none. -/
def fault? : Except Fault Bool → Option Fault
  | .ok _ => none
  | .error fault => some fault

/-- Whether the condition holds, a clause without a value counting as false. -/
def evaluate (vars : Variables) (text : String) : Bool :=
  combine ((outcomes vars text).map (fun (conj, outcome) => (conj, orFalse outcome)))

/-- What is known of a condition after some of its clauses. -/
structure Verdict where
  /-- The values of the clauses joined, a clause without a value counting as false. -/
  value : Option Bool
  /-- Why the first clause without a value has none. -/
  fault : Option Fault
  deriving DecidableEq, Repr

namespace Verdict

/-- Before the first clause. -/
def start : Verdict := ⟨none, none⟩

/-- After one more clause; the first fault stays. -/
def next (vars : Variables) (verdict : Verdict) (part : Option Conjunction × Clause) : Verdict :=
  match part.2.eval vars with
  | .ok b => ⟨some (join verdict.value part.1 b), verdict.fault⟩
  | .error fault => ⟨some (join verdict.value part.1 false), verdict.fault.or (some fault)⟩

end Verdict

/-- Whether the condition holds, or why its first clause without a value has none.  All clauses are
gone over, also those after a fault. -/
def evaluate? (vars : Variables) (text : String) : Except Fault Bool :=
  let verdict := (clauses text).foldl (Verdict.next vars) .start
  match verdict.fault with
  | some fault => .error fault
  | none => .ok (verdict.value.getD false)

/-- One log line for each clause without a value. -/
def warnings (vars : Variables) (text : String) : List LogLine :=
  (outcomes vars text).filterMap (fun (_, outcome) => (fault? outcome).map (fun fault =>
    LogLine.warn s!"[Condition] '{text}': {fault.text} (treated as false)"))

end Runbook.Condition
