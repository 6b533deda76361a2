import Mathlib.Data.List.Basic
import Runbook.Proofs.Condition.Scan

/-!
# The two readings of a condition

`evaluate` counts a clause without a value as false, and `evaluate?` gives the first such clause's
fault.  Both go over all clauses of a text, well formed or not, and neither drifts from the other.

* `Clause.Fails` says which clauses have no value, and `Clause.eval_eq_error_iff` that these are all;
* `Verdict.fault_foldl` and `Verdict.value_foldl` say what the strict reading knows after a row of
  clauses, by what one clause adds;
* `Combines` is what a row of clauses comes to from left to right, and `combines_iff` says that it is
  what the lenient reading gives;
* `readings_agree` is the result.
-/

namespace Runbook.Condition

variable {vars : Variables} {b : Bool}

/-! ## Clauses without a value -/

/-- Whether an operator asks for an order. -/
def Operator.orders : Operator → Bool
  | .gt | .ge | .lt | .le => true
  | .isEmpty | .isNotEmpty | .contains | .notContains | .startsWith | .endsWith | .eq | .ne => false

/-- Why a clause has no value: it has none of the forms, or it asks for the order of two texts of
which one is no finite number. -/
inductive Clause.Fails (vars : Variables) : Clause → Fault → Prop where
  /-- The clause has none of the forms. -/
  | malformed (text : List Char) : Fails vars (.malformed text) (.malformed (String.ofList text))
  /-- The clause asks for an order that there is not. -/
  | nonNumeric (left : List Char) (op : Operator) (right : List Char) (orders : op.orders = true)
    (unlike : number? (operand vars left) = none ∨ number? (operand vars right) = none) :
    Fails vars (.compare left op right)
      (.nonNumeric op (String.ofList (operand vars left)) (String.ofList (operand vars right)))

variable {clause : Clause} {fault : Fault}

/-- A comparison fails only where an order is asked for. -/
theorem compare_eq_error_iff {left right : List Char} {op : Operator} :
    compare left op right = .error fault ↔
      op.orders = true ∧ (number? left = none ∨ number? right = none) ∧
        fault = .nonNumeric op (String.ofList left) (String.ofList right) := by
  cases op with
  | isEmpty | isNotEmpty | contains | notContains | startsWith | endsWith =>
    simp [compare, Operator.orders]
  | eq | ne =>
    simp only [compare, Operator.orders]
    cases number? left <;> cases number? right <;> simp
  | gt | ge | lt | le =>
    simp only [compare, Operator.orders]
    cases number? left <;> cases number? right <;> simp [eq_comm]

/-- The clauses that fail are those without a value. -/
theorem Clause.eval_eq_error_iff : clause.eval vars = .error fault ↔ clause.Fails vars fault := by
  cases clause with
  | truthy text =>
    refine ⟨fun h => ?_, fun h => by cases h⟩
    rw [eval] at h
    cases h
  | malformed text =>
    constructor
    · intro h
      rw [eval] at h
      cases h
      exact .malformed text
    · rintro ⟨⟩
      rfl
  | compare left op right =>
    rw [eval, compare_eq_error_iff]
    constructor
    · rintro ⟨horders, hunlike, rfl⟩
      exact .nonNumeric left op right horders hunlike
    · rintro ⟨⟩
      next horders hunlike => exact ⟨horders, hunlike, rfl⟩

/-- A clause that does not fail has a value. -/
theorem Clause.fault?_eval_eq_none_iff :
    fault? (clause.eval vars) = none ↔ ∀ fault, ¬ clause.Fails vars fault := by
  cases heval : clause.eval vars with
  | ok value =>
    refine ⟨fun _ fault hfails => ?_, fun _ => rfl⟩
    rw [Clause.eval_eq_error_iff.2 hfails] at heval
    cases heval
  | error fault =>
    refine ⟨nofun, fun hnone => ?_⟩
    exact absurd (Clause.eval_eq_error_iff.1 heval) (hnone fault)

theorem Clause.fault?_eval_eq_some_iff :
    fault? (clause.eval vars) = some fault ↔ clause.Fails vars fault := by
  rw [← Clause.eval_eq_error_iff]
  cases clause.eval vars <;> simp [fault?]

/-! ## The strict reading, clause by clause -/

namespace Verdict

/-- One more clause changes the fault only if there was none. -/
theorem fault_next (verdict : Verdict) (part : Option Conjunction × Clause) :
    (verdict.next vars part).fault = verdict.fault.or (fault? (part.2.eval vars)) := by
  rw [next]
  cases part.2.eval vars with
  | ok b => exact Option.or_none.symm
  | error fault => rfl

/-- One more clause is joined with its value, or as false. -/
theorem value_next (verdict : Verdict) (part : Option Conjunction × Clause) :
    (verdict.next vars part).value
      = some (join verdict.value part.1 (orFalse (part.2.eval vars))) := by
  rw [next]
  cases part.2.eval vars <;> rfl

/-- After a row of clauses the fault is that of the first one that has any. -/
theorem fault_foldl (verdict : Verdict) (row : List (Option Conjunction × Clause)) :
    (row.foldl (next vars) verdict).fault
      = verdict.fault.or (row.findSome? fun part => fault? (part.2.eval vars)) := by
  induction row generalizing verdict with
  | nil => exact Option.or_none.symm
  | cons part row ih =>
    rw [List.foldl_cons, ih, fault_next, List.findSome?_cons, Option.or_assoc]
    cases fault? (part.2.eval vars) <;> rfl

/-- After a row of clauses the value is what the clauses come to, faults counting as false. -/
theorem value_foldl (verdict : Verdict) (row : List (Option Conjunction × Clause)) :
    (row.foldl (next vars) verdict).value
      = row.foldl (fun acc part => some (join acc part.1 (orFalse (part.2.eval vars))))
          verdict.value := by
  induction row generalizing verdict with
  | nil => rfl
  | cons part row ih => rw [List.foldl_cons, ih, value_next, List.foldl_cons]

end Verdict

/-- The clauses of a text: the first one, and any others each with a conjunction in front of it. -/
theorem exists_clauses (text : String) :
    ∃ (first : Clause) (more : List (Conjunction × Clause)),
      clauses text = (none, first) :: more.map fun part => (some part.1, part.2) := by
  obtain ⟨head, more, hmore⟩ := splitFrom_row none .start text.toList
  refine ⟨parseClause head, more.map fun part => (part.1, parseClause part.2), ?_⟩
  rw [clauses, split, hmore, List.map_cons, List.map_map, List.map_map]
  rfl

/-- The lenient reading, clause by clause. -/
theorem evaluate_eq_foldl (vars : Variables) (text : String) :
    some (evaluate vars text)
      = (clauses text).foldl (fun acc part => some (join acc part.1 (orFalse (part.2.eval vars))))
          none := by
  have hvalue : evaluate vars text
      = ((clauses text).foldl (fun acc part => some (join acc part.1 (orFalse (part.2.eval vars))))
          none).getD false := by
    rw [evaluate, combine, outcomes, List.map_map, List.foldl_map]
    rfl
  obtain ⟨first, more, hrow⟩ := exists_clauses text
  rw [hvalue, hrow, List.foldl_cons]
  clear hvalue hrow
  generalize join none (none, first).1 (orFalse ((none, first).2.eval vars)) = b
  -- from the first clause on there is a value
  induction more generalizing b with
  | nil => rfl
  | cons part more ih => exact ih _

/-- The strict reading gives the fault of the first clause that has one, or what the lenient reading
gives. -/
theorem evaluate?_eq (vars : Variables) (text : String) :
    evaluate? vars text =
      match (clauses text).findSome? fun part => fault? (part.2.eval vars) with
      | some fault => .error fault
      | none => .ok (evaluate vars text) := by
  rw [evaluate?, Verdict.fault_foldl, Verdict.value_foldl, Verdict.start, Option.none_or,
    ← evaluate_eq_foldl]
  rfl

/-- A condition of one clause has the value or the fault of that. -/
theorem evaluate?_of_single {text : String} (h : clauses text = [(none, clause)])
    (vars : Variables) : evaluate? vars text = clause.eval vars := by
  rw [evaluate?, h, List.foldl_cons, List.foldl_nil, Verdict.next, Verdict.start]
  dsimp only
  cases clause.eval vars <;> rfl

theorem evaluate_of_single {text : String} (h : clauses text = [(none, clause)])
    (vars : Variables) : evaluate vars text = orFalse (clause.eval vars) := by
  rw [evaluate, outcomes, h]
  rfl

/-! ## What a row of clauses comes to -/

/-- What a clause counts for in the lenient reading. -/
inductive Clause.CountsFor (vars : Variables) : Clause → Bool → Prop where
  /-- A clause with a value counts for it. -/
  | value {clause : Clause} {b : Bool} (h : clause.eval vars = .ok b) : CountsFor vars clause b
  /-- A clause that fails counts as false. -/
  | fault {clause : Clause} {fault : Fault} (h : clause.Fails vars fault) :
    CountsFor vars clause false

/-- What a row of clauses comes to, from left to right: a conjunction joins what all the clauses
before it come to with the one clause behind it. -/
inductive Combines (vars : Variables) : List (Option Conjunction × Clause) → Bool → Prop where
  /-- The first clause. -/
  | first {clause : Clause} {b : Bool} (h : clause.CountsFor vars b) :
    Combines vars [(none, clause)] b
  /-- One more clause. -/
  | next {row : List (Option Conjunction × Clause)} {before b : Bool} {clause : Clause}
    (conj : Conjunction) (hrow : Combines vars row before) (h : clause.CountsFor vars b) :
    Combines vars (row ++ [(some conj, clause)]) (conj.apply before b)

theorem Clause.countsFor_iff : clause.CountsFor vars b ↔ orFalse (clause.eval vars) = b := by
  constructor
  · rintro (h | h)
    · rw [h, orFalse]
    · rw [Clause.eval_eq_error_iff.2 h, orFalse]
  · rintro rfl
    cases heval : clause.eval vars with
    | ok b => exact .value heval
    | error fault => exact .fault (Clause.eval_eq_error_iff.1 heval)

theorem join_apply (before : Bool) (conj : Conjunction) (b : Bool) :
    join (some before) (some conj) b = conj.apply before b := by
  cases conj <;> rfl

/-- A row of clauses comes to one value only. -/
theorem Combines.foldl_eq {row : List (Option Conjunction × Clause)} (h : Combines vars row b) :
    row.foldl (fun acc part => some (join acc part.1 (orFalse (part.2.eval vars)))) none
      = some b := by
  induction h with
  | first h => exact congrArg some (Clause.countsFor_iff.1 h)
  | next conj hrow h ih =>
    rw [List.foldl_append, ih, List.foldl_cons, List.foldl_nil, Clause.countsFor_iff.1 h, join_apply]

/-- A row of clauses comes to a value, and so does a longer one. -/
theorem Combines.extend {row : List (Option Conjunction × Clause)} (hrow : Combines vars row b)
    (more : List (Conjunction × Clause)) :
    ∃ b', Combines vars (row ++ more.map fun part => (some part.1, part.2)) b' := by
  induction more generalizing row b with
  | nil => exact ⟨b, by rwa [List.map_nil, List.append_nil]⟩
  | cons part more ih =>
    obtain ⟨b', hb'⟩ := ih (.next part.1 hrow (Clause.countsFor_iff.2 rfl))
    rw [List.append_assoc] at hb'
    exact ⟨b', hb'⟩

/-- The clauses of a text come to what the lenient reading gives. -/
theorem combines_iff {text : String} :
    Combines vars (clauses text) b ↔ evaluate vars text = b := by
  obtain ⟨b', hb'⟩ : ∃ b', Combines vars (clauses text) b' := by
    obtain ⟨first, more, hrow⟩ := exists_clauses text
    rw [hrow]
    exact Combines.extend (.first (Clause.countsFor_iff.2 rfl)) more
  have hread : evaluate vars text = b' :=
    Option.some.inj ((evaluate_eq_foldl vars text).trans hb'.foldl_eq)
  constructor
  · intro h
    exact Option.some.inj ((evaluate_eq_foldl vars text).trans h.foldl_eq)
  · rintro rfl
    rwa [hread]

/-! ## Both readings -/

/-- How the strict reading of a condition goes with the lenient one. -/
structure ReadingsAgree (vars : Variables) (text : String) : Prop where
  /-- The strict reading fails exactly if some clause does, wherever it stands. -/
  fails_iff : (∃ fault, evaluate? vars text = .error fault) ↔
    ∃ part ∈ clauses text, ∃ fault, part.2.Fails vars fault
  /-- Its fault is that of the leftmost clause that fails. -/
  leftmost : ∀ fault, evaluate? vars text = .error fault ↔
    ∃ before conj clause after, clauses text = before ++ (conj, clause) :: after ∧
      clause.Fails vars fault ∧ ∀ part ∈ before, ∀ other, ¬ part.2.Fails vars other
  /-- Where it does not fail, both give one value. -/
  holds : ∀ b, evaluate? vars text = .ok b → evaluate vars text = b
  /-- The lenient reading gives what the clauses come to from left to right, and nothing else. -/
  combines : ∀ b, evaluate vars text = b ↔ Combines vars (clauses text) b

/-- **The two readings agree**: for any text and any variables the strict reading fails with the
fault of the leftmost clause that is malformed or asks for an order of what are not two finite
numbers, if there is such a clause anywhere, and else gives the value of the lenient reading, which
joins the clauses from left to right and counts those that fail as false. -/
theorem readings_agree (vars : Variables) (text : String) : ReadingsAgree vars text where
  fails_iff := by
    rw [evaluate?_eq]
    cases hfind : (clauses text).findSome? fun part => fault? (part.2.eval vars) with
    | some fault =>
      obtain ⟨part, hpart, hfault⟩ := List.exists_of_findSome?_eq_some hfind
      exact ⟨fun _ => ⟨part, hpart, fault, Clause.fault?_eval_eq_some_iff.1 hfault⟩,
        fun _ => ⟨fault, rfl⟩⟩
    | none =>
      rw [List.findSome?_eq_none_iff] at hfind
      constructor
      · rintro ⟨fault, ⟨⟩⟩
      · rintro ⟨part, hpart, fault, hfails⟩
        exact absurd hfails (Clause.fault?_eval_eq_none_iff.1 (hfind part hpart) fault)
  leftmost fault := by
    have hfails : evaluate? vars text = .error fault ↔
        (clauses text).findSome? (fun part => fault? (part.2.eval vars)) = some fault := by
      rw [evaluate?_eq]
      split
      · next heq => rw [heq]; simp
      · next heq => rw [heq]; simp
    rw [hfails, List.findSome?_eq_some_iff]
    constructor
    · rintro ⟨before, ⟨conj, clause⟩, after, hrow, hfault, hbefore⟩
      exact ⟨before, conj, clause, after, hrow, Clause.fault?_eval_eq_some_iff.1 hfault,
        fun part hpart => Clause.fault?_eval_eq_none_iff.1 (hbefore part hpart)⟩
    · rintro ⟨before, conj, clause, after, hrow, hfault, hbefore⟩
      exact ⟨before, (conj, clause), after, hrow, Clause.fault?_eval_eq_some_iff.2 hfault,
        fun part hpart => Clause.fault?_eval_eq_none_iff.2 (hbefore part hpart)⟩
  holds b h := by
    rw [evaluate?_eq] at h
    split at h
    · cases h
    · exact Except.ok.inj h
  combines _ := combines_iff.symm

/-- The variables of the case below. -/
def fives : Variables := KeyMap.ofList [("x", .int 5), ("bad", .string "5a")]

/-- The second clause and the third have no value, and the last one makes the condition hold. -/
example :
    evaluate fives "{x} == 1 or {bad} > 3 and {x} equals 5 or {x} == 5" = true ∧
      evaluate? fives "{x} == 1 or {bad} > 3 and {x} equals 5 or {x} == 5"
        = .error (.nonNumeric .gt "5a" "3") := by decide +kernel

end Runbook.Condition
