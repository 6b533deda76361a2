import Runbook.Proofs.Condition.Scan
import Runbook.Proofs.Text.Trim

/-!
# Reading conditions

A written condition is read as what was written, and has the value that its clauses give it.

* `WrittenClause.parseClause_chars` reads one clause back and `WrittenClause.eval_clause` gives its
  value;
* `WrittenCondition.split_chars` splits a condition at its conjunctions and nowhere else;
* `WrittenCondition.reads_as_written` puts the three together.
-/

namespace Runbook.Condition

variable {b : Bool} {c : Char} {cs rest : List Char}

/-! ## Texts without blanks at their ends -/

/-- A path in braces has no blanks at its ends. -/
theorem BracedPath.tight (path : BracedPath) : Tight path.chars :=
  tight_between rfl rfl path.path

/-- A quoted text has no blanks at its ends. -/
theorem Literal.tight (l : Literal) : Tight l.chars :=
  tight_between l.mark.isBlank_char l.mark.isBlank_char l.text

/-- An operand has no blanks at its ends. -/
theorem Operand.tight (right : Operand) : Tight right.chars := by
  cases right with
  | path path => exact path.tight
  | literal l => exact l.tight
  | word w =>
    refine tight_of_forall fun c hc => ?_
    have hin : inWord c = true := w.plain c hc
    simp only [inWord, Bool.not_eq_true', Bool.or_eq_false_iff] at hin
    exact hin.1.1.1

/-! ## Reading a clause -/

/-- A text that hides all it holds is no comparison. -/
theorem findOperator_eq_none (h : Passes operator? [] .start cs (.outside b)) :
    findOperator [] .start cs = none := by
  have hread := findOperator_passes h []
  rwa [List.append_nil, findOperator] at hread

/-- The finder stops at an operator outside of quotes and braces. -/
theorem findOperator_found {before after : List Char} {op : Operator} (hc : ordinary c = true)
    (h : operator? (c :: cs) = some (op, after)) :
    findOperator before (.outside b) (c :: cs) = some (before.reverse, op, after) := by
  rw [findOperator, if_pos (Place.exposes_outside hc), h]

/-- The operator of a comparison is the first that is found, and the path stands before it. -/
theorem findOperator_spelled (path : BracedPath) (op : Operator) (spelling : Spelling op.symbol)
    (hr : op.unary = true → rest = []) :
    ∃ left, trim left = path.chars ∧
      findOperator [] .start (path.chars ++ ' ' :: (spelling.chars ++ (op.tail ++ rest)))
        = some (left, op, op.tail ++ rest) := by
  have hfound := operator?_spelled op spelling hr
  rw [findOperator_passes path.passes, List.append_nil]
  cases hw : op.worded with
  | true =>
    -- The blank belongs to the operator.
    rw [Operator.lead, if_pos hw] at hfound
    refine ⟨path.chars, trim_of_tight path.tight, ?_⟩
    have hread : findOperator path.chars.reverse (.outside false)
        (' ' :: (spelling.chars ++ (op.tail ++ rest)))
        = some (path.chars.reverse.reverse, op, op.tail ++ rest) := findOperator_found rfl hfound
    rw [List.reverse_reverse] at hread
    exact hread
  | false =>
    -- The blank belongs to the left side.
    rw [Operator.lead, if_neg (by simp [hw])] at hfound
    have hnone := operator?_of_not_worded op spelling hw (op.tail ++ rest)
    refine ⟨path.chars ++ [' '], trim_append_blank rfl path.tight, ?_⟩
    rw [findOperator, if_pos (Place.exposes_outside rfl), hnone, Place.step_outside rfl]
    obtain ⟨chars, hlower⟩ := spelling
    cases chars with
    | nil => cases op <;> exact absurd hlower (by decide)
    | cons c chars =>
      have hlow : ordinary c.toLower = true :=
        op.symbol_ordinary _ (hlower ▸ List.mem_cons_self)
      have hc : ordinary c = true := ordinary_of (fun d => ordinary d.toLower) rfl rfl rfl rfl hlow
      have hread : findOperator (' ' :: path.chars.reverse) (.outside true)
          (c :: (chars ++ (op.tail ++ rest)))
          = some ((' ' :: path.chars.reverse).reverse, op, op.tail ++ rest) :=
        findOperator_found hc hfound
      rw [List.reverse_cons, List.reverse_reverse] at hread
      exact hread

/-- A comparison is read as its path, its operator and what stands on the right. -/
theorem parseClause_spelled (path : BracedPath) (op : Operator) (spelling : Spelling op.symbol)
    (hr : op.unary = true → rest = []) :
    parseClause (path.chars ++ ' ' :: (spelling.chars ++ (op.tail ++ rest)))
      = .compare path.chars op (trim (op.tail ++ rest)) := by
  obtain ⟨left, hleft, hfound⟩ := findOperator_spelled path op spelling hr
  rw [parseClause, hfound]
  show Clause.compare (trim left) op _ = _
  rw [hleft]

/-- A text in a pair of quotes has nothing else between them. -/
theorem between?_quotes (q : Char) (text : List Char) :
    between? q (q :: (text ++ [q])) = some text := by
  rw [between?, if_pos ⟨rfl, by simp⟩, List.dropLast_concat]

/-- A text that begins with another character is in no such quotes. -/
theorem between?_of_ne {q : Char} (h : c ≠ q) (cs : List Char) : between? q (c :: cs) = none := by
  rw [between?, if_neg fun hq => h hq.1]

/-- A quoted text is known as one. -/
theorem Literal.isQuoted (l : Literal) : isQuoted l.chars = true := by
  have hq : (between? l.mark.char l.chars).any (fun inner => !inner.contains l.mark.char) = true := by
    rw [Literal.chars, between?_quotes]
    simpa using l.mark_notMem
  have hmem : l.mark.char ∈ ['"', '\''] := by cases l.mark <;> decide
  exact List.any_eq_true.2 ⟨_, hmem, hq⟩

/-- A clause is read as what was written. -/
theorem WrittenClause.parseClause_chars (clause : WrittenClause) :
    parseClause clause.chars = clause.clause := by
  cases clause with
  | path path =>
    have honly : Template.onlyPath? (Template.pieces path.chars) = some (String.ofList path.path) := by
      rw [BracedPath.chars, Template.pieces_braced path.isPath, Template.onlyPath?]
    rw [chars, clause, parseClause, findOperator_eq_none path.passes, trim_of_tight path.tight]
    simp [honly]
  | literal l =>
    rw [chars, clause, parseClause, findOperator_eq_none l.passes, trim_of_tight l.tight]
    simp [l.isQuoted]
  | test path op hu spelling =>
    have hread : parseClause (path.chars ++ ' ' :: (spelling.chars ++ (op.tail ++ [])))
        = .compare path.chars op (trim (op.tail ++ [])) :=
      parseClause_spelled path op spelling fun _ => rfl
    rw [Operator.tail, if_pos hu, List.append_nil, List.append_nil] at hread
    exact hread
  | compare path op hb spelling right =>
    have hnot : ¬ op.unary = true := by simp [hb]
    have hread : parseClause (path.chars ++ ' ' :: (spelling.chars ++ (op.tail ++ right.chars)))
        = .compare path.chars op (trim (op.tail ++ right.chars)) :=
      parseClause_spelled path op spelling fun hu => absurd hu hnot
    rw [Operator.tail, if_neg hnot, List.singleton_append, trim_blank_cons rfl,
      trim_of_tight right.tight] at hread
    exact hread

/-! ## The value of a clause -/

/-- Only a text that begins with a quote can lose one. -/
theorem unquote_cons (hc : Place.isQuote c = false) (h : Tight (c :: cs)) :
    unquote (c :: cs) = c :: cs := by
  simp only [Place.isQuote, Bool.or_eq_false_iff, beq_eq_false_iff_ne] at hc
  rw [unquote, trim_of_tight h, between?_of_ne hc.1, between?_of_ne hc.2]
  rfl

/-- A quoted text loses its quotes. -/
theorem Literal.unquote_chars (l : Literal) : unquote l.chars = l.text := by
  have hinner : between? l.mark.char l.chars = some l.text := between?_quotes _ _
  rw [unquote, trim_of_tight l.tight]
  cases hmark : l.mark with
  | single =>
    rw [hmark] at hinner
    have hdouble : between? '"' l.chars = none := by
      rw [Literal.chars, hmark]
      exact between?_of_ne (by decide) _
    rw [hdouble, show between? '\'' l.chars = some l.text from hinner]
    rfl
  | double =>
    rw [hmark] at hinner
    rw [show between? '"' l.chars = some l.text from hinner]

/-- A path in braces stands for the value at the path. -/
theorem BracedPath.operand_chars (vars : Variables) (path : BracedPath) :
    operand vars path.chars = path.filled vars := by
  rw [operand, BracedPath.chars, unquote_cons rfl path.tight]
  exact Template.fill_braced vars.rendered path.isPath

/-- A quoted text stands for what is between its quotes. -/
theorem Literal.operand_chars (vars : Variables) (l : Literal) :
    operand vars l.chars = l.filled vars := by
  rw [operand, l.unquote_chars, filled]

/-- A text without quotes stands for itself. -/
theorem Word.operand_chars (vars : Variables) (w : Word) : operand vars w.chars = w.chars := by
  have hplain : ∀ c ∈ w.chars, ordinary c = true := fun c hc => ordinary_of_inWord (w.plain c hc)
  have htight : Tight w.chars := (Operand.word w).tight
  have hquotes : unquote w.chars = w.chars := by
    cases hchars : w.chars with
    | nil => exact absurd hchars w.ne_nil
    | cons c cs =>
      rw [hchars] at hplain htight
      have hc : ordinary c = true := hplain c List.mem_cons_self
      simp only [ordinary, Bool.not_eq_true', Bool.or_eq_false_iff] at hc
      exact unquote_cons hc.1.1 htight
  rw [operand, hquotes]
  refine Template.fill_of_no_brace vars.rendered ?_
  rintro c hc rfl
  exact absurd (hplain _ hc) (by decide)

/-- An operand stands for itself, filled and without its quotes. -/
theorem Operand.operand_chars (vars : Variables) (right : Operand) :
    operand vars right.chars = right.filled vars := by
  cases right with
  | path path => exact path.operand_chars vars
  | literal l => exact l.operand_chars vars
  | word w => exact w.operand_chars vars

/-- The value of a clause that was read is that of the clause that was written. -/
theorem WrittenClause.eval_clause (vars : Variables) (clause : WrittenClause) :
    clause.clause.eval vars = clause.outcome vars := by
  cases clause with
  | path path => rw [clause, Clause.eval, path.operand_chars, outcome]
  | literal l => rw [clause, Clause.eval, l.operand_chars, outcome]
  | test path op _ _ =>
    have hnil : operand vars [] = [] := by
      rw [operand, show unquote [] = [] from rfl, Template.fill, Template.pieces]
      rfl
    rw [clause, Clause.eval, path.operand_chars, hnil, outcome]
  | compare path op _ _ right =>
    rw [clause, Clause.eval, path.operand_chars, right.operand_chars, outcome]

/-! ## Conditions -/

/-- Behind a clause there is a blank or nothing. -/
theorem severed_joined (joined : List JoinedClause) : Severed (joined.flatMap JoinedClause.chars) := by
  cases joined with
  | nil => exact severed_nil
  | cons j joined => exact severed_blank _

/-- A clause ends at the conjunction behind it. -/
theorem splitFrom_joined (conj : Option Conjunction) (clause : WrittenClause)
    (joined : List JoinedClause) :
    splitFrom conj [] .start (clause.chars ++ joined.flatMap JoinedClause.chars)
      = (conj, clause.chars) :: joined.map fun j => (some j.conj, j.clause.chars) := by
  induction joined generalizing conj clause with
  | nil =>
    obtain ⟨b, hclause⟩ := clause.passes severed_nil
    rw [List.flatMap_nil, splitFrom_passes hclause, splitFrom, List.append_nil,
      List.reverse_reverse]
    rfl
  | cons j joined ih =>
    obtain ⟨b, hclause⟩ := clause.passes (severed_joined (j :: joined))
    have hchars : (j :: joined).flatMap JoinedClause.chars
        = ' ' :: (j.spelling.chars ++ ' ' :: (j.clause.chars
          ++ joined.flatMap JoinedClause.chars)) := by
      simp [JoinedClause.chars]
    have hconj := conjunction?_spelled j.conj j.spelling
      (j.clause.chars ++ joined.flatMap JoinedClause.chars)
    rw [splitFrom_passes hclause, hchars,
      splitFrom_found ((if_pos (Place.exposes_outside rfl)).trans hconj), ih, List.append_nil,
      List.reverse_reverse]
    rfl

/-- The values of clauses are joined one by one to the value before them. -/
theorem foldl_join (value : JoinedClause → Bool) (joined : List JoinedClause) (before : Bool) :
    (joined.map fun j => (some j.conj, value j)).foldl
        (fun acc (conj, value) => some (join acc conj value)) (some before)
      = some (joined.foldl (fun before j => j.conj.apply before (value j)) before) := by
  induction joined generalizing before with
  | nil => rfl
  | cons j joined ih =>
    have hjoin : join (some before) (some j.conj) (value j) = j.conj.apply before (value j) := by
      cases j.conj <;> rfl
    rw [List.map_cons, List.foldl_cons, List.foldl_cons, ← ih, ← hjoin]

namespace WrittenCondition

variable (c : WrittenCondition)

/-- A condition is split at its conjunctions. -/
theorem split_chars : split c.chars = c.parts :=
  splitFrom_joined none c.first c.rest

/-- The clauses of a condition are those that were written. -/
theorem clauses_text : Condition.clauses c.text = c.clauses := by
  rw [Condition.clauses, text, String.toList_ofList, split_chars, parts, clauses, List.map_cons,
    List.map_map]
  show (none, parseClause c.first.chars) :: _ = _
  rw [c.first.parseClause_chars]
  congr 1
  refine List.map_congr_left fun j _ => ?_
  show (some j.conj, parseClause j.clause.chars) = _
  rw [j.clause.parseClause_chars]

/-- The clauses of a condition have the values of those that were written. -/
theorem outcomes_text (vars : Variables) :
    outcomes vars c.text = (none, c.first.outcome vars)
      :: c.rest.map fun j => (some j.conj, j.clause.outcome vars) := by
  rw [outcomes, clauses_text, clauses, List.map_cons, List.map_map]
  show (none, c.first.clause.eval vars) :: _ = _
  rw [c.first.eval_clause]
  congr 1
  refine List.map_congr_left fun j _ => ?_
  show (some j.conj, j.clause.clause.eval vars) = _
  rw [j.clause.eval_clause]

/-- The values of the clauses are joined from left to right. -/
theorem evaluate_text (vars : Variables) : evaluate vars c.text = c.value vars := by
  have hfold := foldl_join (fun j => orFalse (j.clause.outcome vars)) c.rest
    (orFalse (c.first.outcome vars))
  rw [evaluate, outcomes_text, List.map_cons, List.map_map, combine, List.foldl_cons]
  show (List.foldl _ (some (orFalse (c.first.outcome vars))) _).getD false = _
  rw [value]
  exact congrArg (·.getD false) hfold

/-- A written condition is split into its clauses, each of them is read as what was written, and the
condition has the value that the clauses have when joined from left to right. -/
theorem reads_as_written :
    split c.text.toList = c.parts ∧ Condition.clauses c.text = c.clauses ∧
      ∀ vars, evaluate vars c.text = c.value vars := by
  refine ⟨?_, c.clauses_text, c.evaluate_text⟩
  rw [text, String.toList_ofList, split_chars]

end WrittenCondition

/-- The conjunction and the brace in the quotes belong to the text that is looked for. -/
example : WrittenCondition.text
    ⟨.compare ⟨"plan".toList, rfl⟩ .contains rfl ⟨"Contains".toList, rfl⟩
        (.literal ⟨.single, "a and \x7b".toList, by decide⟩),
      [⟨.or, ⟨"OR".toList, rfl⟩,
        .test ⟨"draft.note".toList, rfl⟩ .isEmpty rfl ⟨"is empty".toList, rfl⟩⟩]⟩
    = "\x7bplan\x7d Contains 'a and \x7b' OR \x7bdraft.note\x7d is empty" := rfl

end Runbook.Condition
