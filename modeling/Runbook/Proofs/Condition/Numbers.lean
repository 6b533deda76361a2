import Mathlib.Order.Compare
import Runbook.Proofs.Condition.Reading
import Runbook.Proofs.Condition.Verdict
import Runbook.Proofs.Number.Rounding
import Runbook.Proofs.Shared.Conforming

/-!
# Comparing whole numbers

A comparison reads both sides as doubles, so whole numbers of more than 53 bits are rounded before
they are compared.

* `Operator.Asks` is what a comparison asks of two whole numbers;
* `BracedPath.Numeral` says that a path leads to a whole number, or to its decimal text, and
  `compare_numerals` that such sides compare like the numbers they are rounded to;
* `comparesRounded` is the result: a comparison says what is true of the rounded numbers, so it says
  what is true of the numbers themselves unless two different ones are rounded to the same;
* `messages_alike` has two such numbers.
-/

namespace Runbook.Condition

variable {vars : Variables} {op : Operator} {a b : Int} {p q : BracedPath}

/-! ## What a comparison asks -/

/-- What a comparison asks of two whole numbers. -/
def Operator.Asks : Operator → Int → Int → Prop
  | .eq, a, b => a = b
  | .ne, a, b => a ≠ b
  | .gt, a, b => b < a
  | .ge, a, b => b ≤ a
  | .lt, a, b => a < b
  | .le, a, b => a ≤ b
  | .isEmpty, _, _ | .isNotEmpty, _, _ | .contains, _, _ | .notContains, _, _
  | .startsWith, _, _ | .endsWith, _, _ => False

instance (op : Operator) (a b : Int) : Decidable (op.Asks a b) :=
  match op with
  | .eq => inferInstanceAs (Decidable (a = b))
  | .ne => inferInstanceAs (Decidable (a ≠ b))
  | .gt => inferInstanceAs (Decidable (b < a))
  | .ge => inferInstanceAs (Decidable (b ≤ a))
  | .lt => inferInstanceAs (Decidable (a < b))
  | .le => inferInstanceAs (Decidable (a ≤ b))
  | .isEmpty | .isNotEmpty | .contains | .notContains | .startsWith | .endsWith =>
    inferInstanceAs (Decidable False)

/-- An operator accepts the order of two whole numbers if that is what it asks for. -/
theorem Operator.accepts_compare (op : Operator) (a b : Int) :
    op.accepts (Ord.compare a b) = decide (op.Asks a b) := by
  rw [Bool.eq_iff_iff, decide_eq_true_iff]
  rcases Int.lt_trichotomy a b with hlt | rfl | hgt
  · rw [compare_lt_iff_lt.2 hlt]
    cases op <;> simp [accepts, Asks] <;> omega
  · rw [compare_eq_iff_eq.2 rfl]
    cases op <;> simp [accepts, Asks]
  · rw [compare_gt_iff_gt.2 hgt]
    cases op <;> simp [accepts, Asks] <;> omega

/-- An operator asks the same of two pairs of numbers in the same order. -/
theorem Operator.asks_congr {a' b' : Int} (h : Ord.compare a b = Ord.compare a' b') :
    op.Asks a b ↔ op.Asks a' b' := by
  have hop : decide (op.Asks a b) = decide (op.Asks a' b') := by
    rw [← accepts_compare, ← accepts_compare, h]
  simpa using hop

/-! ## Numerals as operands -/

/-- A path leads to a whole number, as a number or as its decimal text. -/
def BracedPath.Numeral (vars : Variables) (p : BracedPath) (i : Int) : Prop :=
  vars.resolve (String.ofList p.path) = some (.number (.int i)) ∨
    vars.resolve (String.ofList p.path) = some (.string (toString i))

/-- A number is filled in as its decimal text. -/
theorem BracedPath.Numeral.filled_eq (h : p.Numeral vars a) :
    p.filled vars = (toString a).toList := by
  rw [BracedPath.filled, Variables.rendered, Variables.render]
  rcases h with h | h <;> rw [h] <;> rfl

/-- The decimal text of a whole number of 64 bits is read as the number rounded. -/
theorem number?_toString (ha : (Number.int a).Valid) :
    number? (toString a).toList = some (Binary64.ofInt a) := by
  have hsize : a.natAbs < twoTo 64 := by
    have hlow : -(twoTo 63 : Int) ≤ a := ha.1
    have hhigh : a < twoTo 64 := ha.2
    have hwide : twoTo 63 < twoTo 64 := by decide
    omega
  rw [number?, Decimal.trim_toString, Decimal.readFloat?_toString hsize]
  rfl

/-- Decimal texts compare like the rounded numbers. -/
theorem compare_numerals (hop : op.worded = false) (ha : (Number.int a).Valid)
    (hb : (Number.int b).Valid) :
    compare (toString a).toList op (toString b).toList
      = .ok (decide (op.Asks (Binary64.nearest a) (Binary64.nearest b))) := by
  rw [← Operator.accepts_compare, ← Binary64.compare_ofInt]
  cases op with
  | isEmpty | isNotEmpty | contains | notContains | startsWith | endsWith => cases hop
  | eq | ne | gt | ge | lt | le =>
    simp only [compare, number?_toString ha, number?_toString hb]

/-! ## Conditions on two numbers -/

/-- The text of a comparison of two paths, with a blank on either side of the operator. -/
def comparison (p : BracedPath) (op : Operator) (q : BracedPath) : String :=
  String.ofList (p.chars ++ ' ' :: (op.symbol.toList ++ ' ' :: q.chars))

/-- A comparison of two paths has one clause. -/
theorem clauses_comparison (hop : op.unary = false) :
    clauses (comparison p op q) = [(none, .compare p.chars op q.chars)] := by
  let written : WrittenCondition := ⟨.compare p op hop op.spelling (.path q), []⟩
  have htext : comparison p op q = written.text := by
    rw [WrittenCondition.text, WrittenCondition.chars, List.flatMap_nil, List.append_nil]
    rfl
  rw [htext, written.clauses_text]
  rfl

/-- What a condition that compares two whole numbers comes to. -/
structure ComparesRounded (vars : Variables) (p : BracedPath) (op : Operator) (q : BracedPath)
    (a b : Int) : Prop where
  /-- The condition has a value: what is true of the rounded numbers. -/
  strict : evaluate? vars (comparison p op q)
    = .ok (decide (op.Asks (Binary64.nearest a) (Binary64.nearest b)))
  /-- The lenient reading gives it as well. -/
  lenient : evaluate vars (comparison p op q)
    = decide (op.Asks (Binary64.nearest a) (Binary64.nearest b))
  /-- It is what is true of the numbers, unless two different ones are rounded to the same. -/
  exact_apart : a = b ∨ Binary64.nearest a ≠ Binary64.nearest b →
    (evaluate vars (comparison p op q) = true ↔ op.Asks a b)
  /-- Up to 53 bits the numbers are not rounded at all. -/
  exact_small : a.natAbs ≤ 2 ^ 53 → b.natAbs ≤ 2 ^ 53 →
    (evaluate vars (comparison p op q) = true ↔ op.Asks a b)
  /-- The numbers compared have 53 significant bits, and none of that many bits are closer. -/
  rounded : ∀ i ∈ [a, b], Binary64.Significant (Binary64.nearest i) ∧
    ∀ s, Binary64.Significant s → (Binary64.nearest i - i).natAbs ≤ (s - i).natAbs

/-- **A comparison of whole numbers says what is true of the rounded numbers**: where two paths lead
to whole numbers of 64 bits, each as a number or as its decimal text, each of the six comparisons
has a value, and it is the right one unless two different numbers are rounded to the same double. -/
theorem comparesRounded (hop : op.worded = false) (hp : p.Numeral vars a) (hq : q.Numeral vars b)
    (ha : (Number.int a).Valid) (hb : (Number.int b).Valid) : ComparesRounded vars p op q a b := by
  have hclauses : clauses (comparison p op q) = [(none, .compare p.chars op q.chars)] :=
    clauses_comparison (Operator.unary_of_not_worded hop)
  have heval : (Clause.compare p.chars op q.chars).eval vars
      = .ok (decide (op.Asks (Binary64.nearest a) (Binary64.nearest b))) := by
    rw [Clause.eval, p.operand_chars, q.operand_chars, hp.filled_eq, hq.filled_eq,
      compare_numerals hop ha hb]
  have hlenient : evaluate vars (comparison p op q)
      = decide (op.Asks (Binary64.nearest a) (Binary64.nearest b)) := by
    rw [evaluate_of_single hclauses, heval, orFalse]
  have happart (h : a = b ∨ Binary64.nearest a ≠ Binary64.nearest b) :
      evaluate vars (comparison p op q) = true ↔ op.Asks a b := by
    rw [hlenient, decide_eq_true_iff]
    exact Operator.asks_congr (Binary64.compare_nearest h)
  exact {
    strict := by rw [evaluate?_of_single hclauses, heval]
    lenient := hlenient
    exact_apart := happart
    exact_small := fun hsmall hsmall' => by
      rw [hlenient, decide_eq_true_iff, Binary64.nearest_of_small hsmall,
        Binary64.nearest_of_small hsmall']
    rounded := fun i _ =>
      ⟨Binary64.nearest_significant i, fun s hs => Binary64.nearest_closest i hs⟩ }

/-- The path of a message. -/
def messageId : BracedPath := ⟨"message_id".toList, rfl⟩

/-- The path of the message it answers. -/
def replyTo : BracedPath := ⟨"reply_to".toList, rfl⟩

/-- Two messages whose numbers follow each other, one of them written out. -/
def messages : Variables :=
  KeyMap.ofList [("message_id", .int 9007199254740992), ("reply_to", .string "9007199254740993")]

theorem comparesRounded_messages :
    messageId.Numeral messages 9007199254740992 ∧ replyTo.Numeral messages 9007199254740993 ∧
      ComparesRounded messages messageId .lt replyTo 9007199254740992 9007199254740993 :=
  ⟨.inl rfl, .inr rfl,
    comparesRounded rfl (.inl rfl) (.inr rfl) (by decide) (by decide)⟩

/-- Two messages are taken for one. -/
theorem messages_alike :
    messageId.Numeral messages 9007199254740992 ∧ replyTo.Numeral messages 9007199254740993 ∧
      comparison messageId .eq replyTo = "\x7bmessage_id\x7d == \x7breply_to\x7d" ∧
      evaluate messages (comparison messageId .eq replyTo) = true ∧
      evaluate? messages (comparison messageId .eq replyTo) = .ok true ∧
      ¬ Operator.eq.Asks 9007199254740992 9007199254740993 := by
  refine ⟨.inl rfl, .inr rfl, rfl, ?_⟩
  decide +kernel

end Runbook.Condition
