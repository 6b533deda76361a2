import Runbook.Condition

/-!
# Written conditions

The conditions that can be written down clause by clause, what each clause says, and its value.

* `Literal` is a text in quotes, `Word` one without, and `Spelling` a keyword in any letter case;
* `WrittenClause` is a clause, with its text (`WrittenClause.chars`), what it is read as
  (`WrittenClause.clause`) and its value (`WrittenClause.outcome`);
* `WrittenCondition` is a row of clauses joined by conjunctions, with one blank between any two of
  its parts (`WrittenCondition.text`);
* `WrittenCondition.value` joins the values of the clauses from left to right.

A value is told of the parts that were written, never of the text.
-/

namespace Runbook.Condition

/-! ## Keywords -/

/-- A keyword in any letter case. -/
structure Spelling (keyword : String) where
  /-- The characters as they are written. -/
  chars : List Char
  /-- They are those of the keyword but for the case. -/
  lower_eq : chars.map Char.toLower = keyword.toList

/-- The keyword for a conjunction. -/
def Conjunction.keyword : Conjunction → String
  | .and => "and"
  | .or => "or"

/-- Joins two values. -/
def Conjunction.apply : Conjunction → Bool → Bool → Bool
  | .and, a, b => a && b
  | .or, a, b => a || b

/-- Whether an operator has nothing on its right. -/
def Operator.unary : Operator → Bool
  | .isEmpty | .isNotEmpty => true
  | .contains | .notContains | .startsWith | .endsWith | .eq | .ne | .gt | .ge | .lt | .le => false

/-- An operator as it is written in a message. -/
def Operator.spelling (op : Operator) : Spelling op.symbol :=
  ⟨op.symbol.toList, by cases op <;> rfl⟩

/-! ## Operands -/

/-- A path that can stand in braces. -/
structure BracedPath where
  /-- The path. -/
  path : List Char
  /-- It is one. -/
  isPath : Template.isPath path = true

/-- A path in braces. -/
def BracedPath.chars (p : BracedPath) : List Char := '\x7b' :: (p.path ++ ['\x7d'])

/-- The text of the value at a path. -/
def BracedPath.filled (vars : Variables) (p : BracedPath) : List Char :=
  vars.rendered (String.ofList p.path)

/-- One of the two quotes. -/
inductive Mark where
  /-- The apostrophe. -/
  | single
  /-- The quotation mark. -/
  | double
  deriving DecidableEq, Repr

/-- The character of a quote. -/
def Mark.char : Mark → Char
  | .single => '\''
  | .double => '"'

/-- A text in quotes; it may hold anything but its own quote. -/
structure Literal where
  /-- The quote on either side. -/
  mark : Mark
  /-- The text between the quotes. -/
  text : List Char
  /-- The quote is not in the text. -/
  mark_notMem : mark.char ∉ text

/-- The text with its quotes. -/
def Literal.chars (l : Literal) : List Char := l.mark.char :: (l.text ++ [l.mark.char])

/-- The text without its quotes, filled. -/
def Literal.filled (vars : Variables) (l : Literal) : List Char :=
  Template.fill vars.rendered l.text

/-- Whether a character can stand in a text without quotes. -/
def inWord (c : Char) : Bool := !(isBlank c || Place.isQuote c || c == '\x7b' || c == '\x7d')

/-- A text without quotes; it is no conjunction. -/
structure Word where
  /-- The text. -/
  chars : List Char
  /-- It is not empty. -/
  ne_nil : chars ≠ []
  /-- It has no blanks, quotes or braces. -/
  plain : ∀ c ∈ chars, inWord c = true
  /-- It is no conjunction in any letter case. -/
  not_keyword : ∀ conj : Conjunction, chars.map Char.toLower ≠ conj.keyword.toList

/-- What can stand on the right of an operator. -/
inductive Operand where
  /-- The value at a path. -/
  | path (p : BracedPath)
  /-- A text in quotes. -/
  | literal (l : Literal)
  /-- A text without quotes. -/
  | word (w : Word)

namespace Operand

/-- The text of an operand. -/
def chars : Operand → List Char
  | path p => p.chars
  | literal l => l.chars
  | word w => w.chars

/-- The operand without its quotes, filled; a text without braces is filled as it is. -/
def filled (vars : Variables) : Operand → List Char
  | path p => p.filled vars
  | literal l => l.filled vars
  | word w => w.chars

end Operand

/-! ## Clauses -/

/-- A clause as it is written. -/
inductive WrittenClause where
  /-- The value at a path by itself. -/
  | path (p : BracedPath)
  /-- A text in quotes by itself. -/
  | literal (l : Literal)
  /-- A test of the value at a path. -/
  | test (p : BracedPath) (op : Operator) (unary : op.unary = true) (spelling : Spelling op.symbol)
  /-- The value at a path compared with an operand. -/
  | compare (p : BracedPath) (op : Operator) (binary : op.unary = false)
    (spelling : Spelling op.symbol) (right : Operand)

namespace WrittenClause

/-- The text of a clause. -/
def chars : WrittenClause → List Char
  | path p => p.chars
  | literal l => l.chars
  | test p _ _ spelling => p.chars ++ ' ' :: spelling.chars
  | compare p _ _ spelling right => p.chars ++ ' ' :: (spelling.chars ++ ' ' :: right.chars)

/-- What a clause is read as. -/
def clause : WrittenClause → Clause
  | path p => .truthy p.chars
  | literal l => .truthy l.chars
  | test p op _ _ => .compare p.chars op []
  | compare p op _ _ right => .compare p.chars op right.chars

/-- The value of a clause, or why it has none. -/
def outcome (vars : Variables) : WrittenClause → Except Fault Bool
  | path p => .ok (holds (p.filled vars))
  | literal l => .ok (holds (l.filled vars))
  | test p op _ _ => Condition.compare (p.filled vars) op []
  | compare p op _ _ right => Condition.compare (p.filled vars) op (right.filled vars)

end WrittenClause

/-! ## Conditions -/

/-- A clause with the conjunction in front of it. -/
structure JoinedClause where
  /-- The conjunction. -/
  conj : Conjunction
  /-- How it is written. -/
  spelling : Spelling conj.keyword
  /-- The clause. -/
  clause : WrittenClause

/-- A condition as it is written: it has at least one clause. -/
structure WrittenCondition where
  /-- The first clause. -/
  first : WrittenClause
  /-- The others. -/
  rest : List JoinedClause

/-- The text of a clause with the conjunction in front of it. -/
def JoinedClause.chars (j : JoinedClause) : List Char :=
  ' ' :: (j.spelling.chars ++ ' ' :: j.clause.chars)

namespace WrittenCondition

/-- The characters of a condition. -/
def chars (c : WrittenCondition) : List Char := c.first.chars ++ c.rest.flatMap JoinedClause.chars

/-- The text of a condition. -/
def text (c : WrittenCondition) : String := String.ofList c.chars

/-- The texts of the clauses, each with the conjunction before it. -/
def parts (c : WrittenCondition) : List (Option Conjunction × List Char) :=
  (none, c.first.chars) :: c.rest.map fun j => (some j.conj, j.clause.chars)

/-- What the clauses are read as, each with the conjunction before it. -/
def clauses (c : WrittenCondition) : List (Option Conjunction × Clause) :=
  (none, c.first.clause) :: c.rest.map fun j => (some j.conj, j.clause.clause)

/-- The values of the clauses joined from left to right, a clause without a value counting as
false. -/
def value (vars : Variables) (c : WrittenCondition) : Bool :=
  c.rest.foldl (fun before j => j.conj.apply before (orFalse (j.clause.outcome vars)))
    (orFalse (c.first.outcome vars))

end WrittenCondition

end Runbook.Condition
