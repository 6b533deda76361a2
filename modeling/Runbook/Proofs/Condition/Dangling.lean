import Mathlib.Data.List.Infix
import Runbook.Proofs.Condition.Reading
import Runbook.Proofs.Condition.Verdict
import Runbook.Proofs.Template.Layout

/-!
# Dangling conjunctions

The splitter knows a conjunction by the blanks on both sides, so one at the end of a condition is
none to it and stays with the clause before.

* `findOperator_dangling` says that the operator of a clause is found before a dangling conjunction
  if it has a right side, and no operator otherwise; `parseClause_dangling` and
  `parseClause_dangling_right` are what the clause is read as;
* `SingleClause.clauses_withDangling` says that a clause stays one, and
  `WrittenClause.singleClause` that written clauses are of this kind;
* `dangles` is the result: a dangling conjunction makes a clause malformed unless it has a right
  side, where it becomes a part of that;
* `cut_guard_holds` is a guard that was cut off and holds for it.
-/

namespace Runbook.Condition

variable {conj : Conjunction} {p q : Place} {c : Char} {cs head rest after word : List Char}

/-- A conjunction with a blank before it and nothing behind it. -/
def Conjunction.dangling (conj : Conjunction) : List Char := ' ' :: conj.keyword.toList

/-! ## Operators before a dangling conjunction -/

/-- What is stripped off is the keyword in some letter case. -/
theorem exists_head_of_stripWord? (h : stripWord? word cs = some after) :
    ∃ head, cs = head ++ after ∧ head.map Char.toLower = word.map Char.toLower := by
  fun_induction stripWord? word cs with
  | case1 cs => exact ⟨[], Option.some.inj h, rfl⟩
  | case2 => cases h
  | case3 w word c cs heq ih =>
    obtain ⟨head, rfl, hlower⟩ := ih h
    exact ⟨c :: head, rfl, congrArg₂ List.cons heq.symm hlower⟩
  | case4 => cases h

namespace Token

variable {token : Token}

/-- No operator ends in a dangling conjunction. -/
theorem stripWord?_dangling (ht : token ∈ tokens) (conj : Conjunction) (head : List Char) :
    stripWord? token.text (head ++ conj.dangling)
      = (stripWord? token.text head).map (· ++ conj.dangling) := by
  have hends : ∀ token ∈ tokens, ∀ v ∈ token.text.tails, v ≠ [] →
      stripWord? v conj.dangling = none := by
    cases conj <;> decide
  refine stripWord?_seam fun u v htext hv _ => hends token ht v ?_ hv
  rw [htext]
  exact (List.mem_tails _ _).2 (List.suffix_append u v)

/-- What is stripped off is the text of the token, and what follows is blank if nothing else may. -/
theorem exists_head_of_strip? (h : token.strip? cs = some after) :
    ∃ head, cs = head ++ after ∧ head.map Char.toLower = token.text.map Char.toLower ∧
      (token.unary = true → ∀ c ∈ after, isBlank c = true) := by
  rw [strip?] at h
  cases hword : stripWord? token.text cs with
  | none =>
    rw [hword] at h
    cases h
  | some rest =>
    rw [hword] at h
    dsimp only at h
    split at h
    · cases h
    · split at h
      · cases h
      · next hblank =>
        cases h
        obtain ⟨head, hcs, hlower⟩ := exists_head_of_stripWord? hword
        refine ⟨head, hcs, hlower, fun hu => ?_⟩
        rw [hu] at hblank
        simpa using hblank

/-- Before a dangling conjunction an operator without a right side is no operator, and any other has
the conjunction on its right. -/
theorem strip?_dangling (ht : token ∈ tokens) (conj : Conjunction) (head : List Char) :
    token.strip? (head ++ conj.dangling)
      = if token.unary then none else (token.strip? head).map (· ++ conj.dangling) := by
  rw [strip?, strip?, stripWord?_dangling ht]
  cases stripWord? token.text head with
  | none => simp
  | some after =>
    have hhead : (after ++ conj.dangling).head?.all isBlank = after.head?.all isBlank := by
      cases after with
      | nil => rfl
      | cons c after => rfl
    have hall : (after ++ conj.dangling).all isBlank = false := by
      rw [List.all_append, show conj.dangling.all isBlank = false by cases conj <;> rfl,
        Bool.and_false]
    show (if (token.word && !_) = true then none else
      if (token.unary && !_) = true then none else _) = _
    rw [hhead, hall]
    cases token.unary with
    | true => simp
    | false => cases hword : token.word && !after.head?.all isBlank <;> simp [hword]

end Token

/-- An operator found before a dangling conjunction has the conjunction on its right, and none is
found if it has no right side. -/
theorem operator?_dangling (conj : Conjunction) (head : List Char) :
    operator? (head ++ conj.dangling) = (operator? head).bind fun found =>
      if found.1.unary then none else some (found.1, found.2 ++ conj.dangling) := by
  have hunary : ∀ token ∈ tokens, token.unary = token.operator.unary := by decide
  cases hfind : operator? head with
  | none =>
    rw [operator?, List.findSome?_eq_none_iff] at hfind
    rw [operator?, Option.bind_none, List.findSome?_eq_none_iff]
    intro token ht
    have hnone : token.strip? head = none := Option.map_eq_none_iff.1 (hfind token ht)
    rw [token.strip?_dangling ht, hnone]
    simp
  | some found =>
    obtain ⟨op, after⟩ := found
    rw [operator?, List.findSome?_eq_some_iff] at hfind
    obtain ⟨pre, token, post, htokens, hfound, hpre⟩ := hfind
    have ht : token ∈ tokens := by simp [htokens]
    obtain ⟨after', hstrip, heq⟩ := Option.map_eq_some_iff.1 hfound
    obtain ⟨rfl, rfl⟩ := Prod.mk.inj heq
    rw [Option.bind_some, ← hunary token ht]
    cases hu : token.unary with
    | false =>
      rw [if_neg Bool.false_ne_true, operator?, List.findSome?_eq_some_iff]
      refine ⟨pre, token, post, htokens, ?_, fun earlier he => ?_⟩
      · rw [token.strip?_dangling ht, hu, hstrip]
        rfl
      · have hnone : earlier.strip? head = none := Option.map_eq_none_iff.1 (hpre earlier he)
        rw [earlier.strip?_dangling (by simp [htokens, he]), hnone]
        simp
    | true =>
      -- the other operators are no keywords with this one at their start
      have hdiffer : ∀ token ∈ tokens, ∀ other ∈ tokens, token.unary = true → other.unary = false →
          differ (other.text.map Char.toLower) (token.text.map Char.toLower) = true := by decide
      obtain ⟨start, rfl, hlower, -⟩ := token.exists_head_of_strip? hstrip
      rw [if_pos rfl, operator?, List.findSome?_eq_none_iff]
      intro other ho
      cases hou : other.unary with
      | true =>
        rw [other.strip?_dangling ho, hou]
        rfl
      | false =>
        have hnone : other.fits (start.map Char.toLower) = false := by
          rw [hlower, Token.fits, hdiffer token ht other ho hu hou]
          rfl
        rw [List.append_assoc, other.strip?_eq_none hnone]
        rfl

/-- No operator stands anywhere in the text. -/
def Silent (cs : List Char) : Prop := ∀ s, s <:+ cs → operator? s = none

theorem silent_nil : Silent [] := by
  intro s hs
  rw [List.suffix_nil.1 hs]
  decide

theorem Silent.cons (h : Silent cs) (hc : operator? (c :: cs) = none) : Silent (c :: cs) := by
  intro s hs
  rcases List.suffix_cons_iff.1 hs with rfl | hs
  · exact hc
  · exact h s hs

theorem Silent.findOperator_eq_none (h : Silent cs) (before : List Char) (p : Place) :
    findOperator before p cs = none := by
  induction cs generalizing before p with
  | nil => rfl
  | cons c cs ih =>
    have hnone : (if p.exposes c then operator? (c :: cs) else none) = none := by
      rw [h _ List.suffix_rfl, ite_self]
    rw [findOperator, hnone]
    exact ih (fun s hs => h s (hs.trans (List.suffix_cons c cs))) _ _

/-- Whether no operator can stand at any character of a text in lower case. -/
def unfit : List Char → Bool
  | [] => true
  | c :: cs => tokens.all (fun token => !token.fits (c :: cs)) && unfit cs

theorem Silent.append (hcs : Silent cs) (hhead : unfit (head.map Char.toLower) = true) :
    Silent (head ++ cs) := by
  induction head with
  | nil => exact hcs
  | cons c head ih =>
    rw [List.map_cons, unfit, Bool.and_eq_true] at hhead
    refine (ih hhead.2).cons ?_
    have hfits : ∀ token ∈ tokens, token.fits ((c :: head).map Char.toLower) = false := by
      intro token ht
      simpa using List.all_eq_true.1 hhead.1 token ht
    exact operator?_eq_none hfits cs

/-- A text that is not blank at its start differs from blanks. -/
theorem differ_blanks {a b : List Char} (ha : (a.take b.length).any (fun c => !isBlank c) = true)
    (hb : ∀ c ∈ b, isBlank c = true) : differ a b = true := by
  induction a generalizing b with
  | nil => simp at ha
  | cons c a ih =>
    cases b with
    | nil => simp at ha
    | cons d b =>
      rw [List.forall_mem_cons] at hb
      rw [List.length_cons, List.take_succ_cons, List.any_cons, Bool.or_eq_true] at ha
      rw [differ_cons, Bool.or_eq_true]
      rcases ha with hc | ha
      · left
        rw [bne_iff_ne]
        rintro rfl
        rw [hb.1] at hc
        cases hc
      · exact .inr (ih ha hb.2)

/-- No operator stands in blanks with a dangling conjunction behind them. -/
theorem silent_blanks (conj : Conjunction) (hblanks : ∀ c ∈ cs, isBlank c = true) :
    Silent (cs ++ conj.dangling) := by
  induction cs with
  | nil =>
    rw [List.nil_append, ← List.append_nil conj.dangling]
    exact silent_nil.append (by cases conj <;> decide)
  | cons c cs ih =>
    rw [List.forall_mem_cons] at hblanks
    refine (ih hblanks.2).cons ?_
    obtain ⟨d, more, hmore, hd⟩ : ∃ d more, cs ++ conj.dangling = d :: more ∧ isBlank d = true := by
      cases cs with
      | nil => exact ⟨' ', _, rfl, rfl⟩
      | cons d cs => exact ⟨d, _, rfl, hblanks.2 d List.mem_cons_self⟩
    have hstart : ∀ token ∈ tokens,
        ((token.text.map Char.toLower).take 2).any (fun c => !isBlank c) = true := by decide
    have hpair : ∀ e ∈ [c, d].map Char.toLower, isBlank e = true := by
      simp [isBlank_toLower, hblanks.1, hd]
    have hfits : ∀ token ∈ tokens, token.fits ([c, d].map Char.toLower) = false := by
      intro token ht
      have hdiffer : differ (token.text.map Char.toLower) ([c, d].map Char.toLower) = true :=
        differ_blanks (hstart token ht) hpair
      rw [Token.fits, hdiffer]
      rfl
    rw [hmore]
    exact operator?_eq_none hfits more

/-- Behind an operator without a right side there is none, up to a dangling conjunction. -/
theorem silent_of_unary {op : Operator} (h : operator? (c :: cs) = some (op, after))
    (hu : op.unary = true) (conj : Conjunction) : Silent (cs ++ conj.dangling) := by
  have hunary : ∀ token ∈ tokens, token.operator.unary = true → token.unary = true ∧
      token.text.map Char.toLower ≠ [] ∧ unfit (token.text.map Char.toLower).tail = true := by
    decide
  obtain ⟨token, ht, hfound⟩ := List.exists_of_findSome?_eq_some h
  obtain ⟨rest, hstrip, heq⟩ := Option.map_eq_some_iff.1 hfound
  obtain ⟨rfl, rfl⟩ := Prod.mk.inj heq
  obtain ⟨htoken, hne, hunfit⟩ := hunary token ht hu
  obtain ⟨head, hcs, hlower, hblank⟩ := token.exists_head_of_strip? hstrip
  cases head with
  | nil => exact absurd hlower.symm hne
  | cons d head =>
    rw [List.cons_append] at hcs
    obtain ⟨rfl, rfl⟩ := List.cons.inj hcs
    rw [List.append_assoc]
    refine (silent_blanks conj (hblank htoken)).append ?_
    rw [← hlower] at hunfit
    exact hunfit

/-- The operator found in a text is found before a dangling conjunction, with the conjunction on its
right, and none is found if it has no right side. -/
theorem findOperator_dangling (conj : Conjunction) (before : List Char) (p : Place)
    (cs : List Char) :
    findOperator before p (cs ++ conj.dangling) = (findOperator before p cs).bind fun found =>
      if found.2.1.unary then none else some (found.1, found.2.1, found.2.2 ++ conj.dangling) := by
  induction cs generalizing before p with
  | nil =>
    have hsilent : Silent ([] ++ conj.dangling) := silent_blanks conj nofun
    exact hsilent.findOperator_eq_none before p
  | cons c cs ih =>
    have hhere := operator?_dangling conj (c :: cs)
    rw [List.cons_append] at hhere ⊢
    rw [findOperator, findOperator]
    by_cases hp : p.exposes c = true
    · rw [if_pos hp, if_pos hp, hhere]
      cases hfind : operator? (c :: cs) with
      | none => exact ih _ _
      | some found =>
        obtain ⟨op, after⟩ := found
        cases hu : op.unary with
        | false => simp [hu]
        | true =>
          rw [Option.bind_some, Option.bind_some, if_pos hu, if_pos hu]
          exact (silent_of_unary hfind hu conj).findOperator_eq_none _ _
    · rw [if_neg hp, if_neg hp]
      exact ih _ _

/-! ## Reading a text with a dangling conjunction -/

/-- A text that ends with a letter is no quoted text. -/
theorem isQuoted_concat (hc : Place.isQuote c = false) (head : List Char) :
    isQuoted (head ++ [c]) = false := by
  simp only [Place.isQuote, Bool.or_eq_false_iff, beq_eq_false_iff_ne] at hc
  have hbetween (q : Char) (hq : c ≠ q) : between? q (head ++ [c]) = none := by
    cases head with
    | nil => simp [between?]
    | cons d head =>
      rw [List.cons_append, between?]
      exact if_neg fun hquotes => hq (by simpa using hquotes.2)
  simp [isQuoted, hbetween _ hc.1, hbetween _ hc.2]

/-- A text that does not end with a brace is no placeholder. -/
theorem onlyPath?_concat (hc : c ≠ '\x7d') (head : List Char) :
    Template.onlyPath? (Template.pieces (head ++ [c])) = none := by
  have hfill := Template.fill_written (head ++ [c])
  rw [Template.fill] at hfill
  generalize Template.pieces (head ++ [c]) = pieces at hfill
  unfold Template.onlyPath?
  split
  · next path =>
    have hlast : some '\x7d' = some c := by
      simpa [Template.fillPiece, Template.written, Template.braced, List.getLast?_cons]
        using congrArg List.getLast? hfill
    exact absurd (Option.some.inj hlast).symm hc
  · rfl

/-- A dangling conjunction ends with a letter. -/
theorem Conjunction.exists_dangling_concat (conj : Conjunction) :
    ∃ init c, conj.dangling = init ++ [c] ∧ inWord c = true := by
  cases conj with
  | and => exact ⟨" an".toList, 'd', rfl, rfl⟩
  | or => exact ⟨" o".toList, 'r', rfl, rfl⟩

/-- With a dangling conjunction behind it, a clause is malformed if no operator is found. -/
theorem parseClause_of_silent (h : findOperator [] .start (cs ++ conj.dangling) = none) :
    parseClause (cs ++ conj.dangling) = .malformed (trim (cs ++ conj.dangling)) := by
  obtain ⟨init, c, hdangling, hc⟩ := conj.exists_dangling_concat
  simp only [inWord, Bool.not_eq_true', Bool.or_eq_false_iff, beq_eq_false_iff_ne] at hc
  obtain ⟨⟨⟨hblank, hquote⟩, -⟩, hbrace⟩ := hc
  obtain ⟨head, htrim⟩ := exists_trim_concat hblank (cs ++ init)
  rw [List.append_assoc, ← hdangling] at htrim
  rw [parseClause, h]
  dsimp only
  rw [htrim, onlyPath?_concat hbrace, isQuoted_concat hquote]
  rfl

/-- Whether a clause compares two sides. -/
def Clause.binary : Clause → Bool
  | .compare _ op _ => !op.unary
  | .truthy _ | .malformed _ => false

/-- With a dangling conjunction behind it, a clause without a right side is malformed. -/
theorem parseClause_dangling (h : (parseClause cs).binary = false) (conj : Conjunction) :
    parseClause (cs ++ conj.dangling) = .malformed (trim (cs ++ conj.dangling)) := by
  refine parseClause_of_silent ?_
  rw [findOperator_dangling]
  unfold parseClause at h
  cases hfind : findOperator [] .start cs with
  | none => rfl
  | some found =>
    obtain ⟨left, op, right⟩ := found
    rw [hfind] at h
    have hu : op.unary = true := by simpa [Clause.binary] using h
    rw [Option.bind_some, if_pos hu]

/-- With a dangling conjunction behind it, a comparison has the conjunction on its right. -/
theorem parseClause_dangling_right {left right : List Char} {op : Operator}
    (h : parseClause cs = .compare left op right) (hop : op.unary = false) (conj : Conjunction) :
    ∃ after, trim after = right ∧
      parseClause (cs ++ conj.dangling) = .compare left op (trim (after ++ conj.dangling)) := by
  unfold parseClause at h ⊢
  rw [findOperator_dangling]
  cases hfind : findOperator [] .start cs with
  | none =>
    rw [hfind] at h
    dsimp only at h
    split at h <;> cases h
  | some found =>
    obtain ⟨before, found, after⟩ := found
    rw [hfind] at h
    obtain ⟨rfl, rfl, hright⟩ := Clause.compare.inj h
    refine ⟨after, hright, ?_⟩
    rw [Option.bind_some, hop]
    rfl

/-! ## Splitting a text with a dangling conjunction -/

/-- The splitter goes over a text of one clause without finding anything. -/
theorem exists_passes {next : Option Conjunction} {before : List Char}
    {part : Option Conjunction × List Char} (h : splitFrom next before p cs = [part]) :
    ∃ q, Passes conjunction? [] p cs q := by
  obtain ⟨first, rest, q, more, rfl, hpasses, hcut, hsplit⟩ := exists_cut p cs
  rw [hsplit] at h
  cases hcut with
  | last =>
    rw [List.append_nil]
    exact ⟨q, hpasses⟩
  | joint seen found =>
    -- there is a second clause
    obtain ⟨head, row, hrow⟩ := splitFrom_row (some _) .start _
    rw [hrow] at h
    cases h

/-- Where a text holds no conjunction at its start, it holds none before a dangling one, unless it
is a dangling one itself. -/
theorem conjunction?_dangling (h : conjunction? head = none)
    (hhead : ∀ other : Conjunction, head.map Char.toLower ≠ other.dangling) (conj : Conjunction) :
    conjunction? (head ++ conj.dangling) = none := by
  have hends : ∀ other : Conjunction, ∀ v ∈ (other.dangling ++ [' ']).tails, v ≠ [] → v ≠ [' '] →
      stripWord? v conj.dangling = none := by
    intro other
    cases conj <;> cases other <;> decide
  have hnone (other : Conjunction) : stripWord? (other.dangling ++ [' ']) head = none := by
    unfold conjunction? at h
    split at h
    · cases h
    · next hand =>
      cases other with
      | and => exact hand
      | or => exact Option.map_eq_none_iff.1 h
  have hkeyword (other : Conjunction) :
      stripWord? (other.dangling ++ [' ']) (head ++ conj.dangling) = none := by
    rw [stripWord?_seam fun u v hword hv hlower => ?_, hnone other]
    · rfl
    by_cases hblank : v = [' ']
    · -- then the text before the seam is the conjunction without its last blank
      rw [hblank] at hword
      rw [← List.append_cancel_right hword] at hlower
      refine absurd (hlower.symm.trans ?_) (hhead other)
      cases other <;> rfl
    · refine hends other v ?_ hv hblank
      rw [hword]
      exact (List.mem_tails _ _).2 (List.suffix_append u v)
  exact conjunction?_eq_none (hkeyword .and) (hkeyword .or)

/-- Whether a text ends with a dangling conjunction in any letter case. -/
def Dangling (cs : List Char) : Prop :=
  ∃ conj : Conjunction, conj.dangling <:+ cs.map Char.toLower

/-- The splitter finds nothing in a text either if a dangling conjunction follows. -/
theorem Passes.dangling (h : Passes conjunction? [] p cs q) (hcs : ¬ Dangling cs)
    (conj : Conjunction) : Passes conjunction? conj.dangling p cs q := by
  induction h with
  | nil p => exact .nil p
  | @cons p q c cs here more ih =>
    refine .cons (fun hp => ?_) (ih fun ⟨other, hother⟩ => hcs ⟨other, ?_⟩)
    · have hhere := here hp
      rw [List.append_nil] at hhere
      have hhead : ∀ other : Conjunction, (c :: cs).map Char.toLower ≠ other.dangling :=
        fun other heq => hcs ⟨other, heq ▸ List.suffix_rfl⟩
      exact conjunction?_dangling hhere hhead conj
    · exact hother.trans (List.suffix_cons _ _)

/-- The splitter finds nothing in a dangling conjunction. -/
theorem passes_dangling (conj : Conjunction) (p : Place) :
    ∃ q, Passes conjunction? [] p conj.dangling q := by
  cases conj with
  | and =>
    exact ⟨_, .cons (fun _ => rfl) (.cons (fun _ => rfl) (.cons (fun _ => rfl)
      (.cons (fun _ => rfl) (.nil _))))⟩
  | or => exact ⟨_, .cons (fun _ => rfl) (.cons (fun _ => rfl) (.cons (fun _ => rfl) (.nil _)))⟩

/-- A text of one clause that does not end with a dangling conjunction. -/
structure SingleClause (text : String) (clause : Clause) : Prop where
  /-- The text is read as the clause. -/
  clauses_eq : clauses text = [(none, clause)]
  /-- It does not end with a dangling conjunction. -/
  not_dangling : ¬ Dangling text.toList

/-- A text with a dangling conjunction behind it. -/
def withDangling (text : String) (conj : Conjunction) : String :=
  String.ofList (text.toList ++ conj.dangling)

namespace SingleClause

variable {text : String} {clause : Clause}

/-- The text as a whole is the clause. -/
theorem parseClause_eq (h : SingleClause text clause) : parseClause text.toList = clause := by
  obtain ⟨part, hsplit, hpart⟩ := List.map_eq_singleton_iff.1 h.clauses_eq
  obtain ⟨q, hpasses⟩ := exists_passes hsplit
  have hwhole := splitFrom_passes hpasses none []
  rw [List.append_nil, List.append_nil, ← split, hsplit, splitFrom, List.reverse_reverse] at hwhole
  rw [(List.cons.inj hwhole).1] at hpart
  exact congrArg Prod.snd hpart

/-- With a dangling conjunction behind it, the text still is one clause. -/
theorem clauses_withDangling (h : SingleClause text clause) (conj : Conjunction) :
    clauses (withDangling text conj) = [(none, parseClause (text.toList ++ conj.dangling))] := by
  obtain ⟨part, hsplit, -⟩ := List.map_eq_singleton_iff.1 h.clauses_eq
  obtain ⟨q, hpasses⟩ := exists_passes hsplit
  obtain ⟨r, hdangling⟩ := passes_dangling conj q
  have hhead : Passes conjunction? (conj.dangling ++ []) .start text.toList q := by
    rw [List.append_nil]
    exact hpasses.dangling h.not_dangling conj
  have hwhole := splitFrom_passes (hhead.append hdangling) none []
  rw [List.append_nil, List.append_nil, splitFrom, List.reverse_reverse] at hwhole
  rw [clauses, split, withDangling, String.toList_ofList, hwhole]
  rfl

end SingleClause

/-! ## Written clauses -/

/-- A text with another last letter than a conjunction does not end with one. -/
theorem not_dangling_concat (hd : c.toLower ≠ 'd') (hr : c.toLower ≠ 'r') (cs : List Char) :
    ¬ Dangling (cs ++ [c]) := by
  rintro ⟨conj, front, heq⟩
  have hlast := congrArg List.getLast? heq
  rw [List.map_append, List.map_singleton, List.getLast?_concat] at hlast
  cases conj with
  | and =>
    have hc : some 'd' = some c.toLower := by
      simpa [Conjunction.dangling, Conjunction.keyword, List.getLast?_append] using hlast
    exact hd (Option.some.inj hc).symm
  | or =>
    have hc : some 'r' = some c.toLower := by
      simpa [Conjunction.dangling, Conjunction.keyword, List.getLast?_append] using hlast
    exact hr (Option.some.inj hc).symm

/-- A text that ends with a word does not end with a dangling conjunction. -/
theorem Word.not_dangling (w : Word) (front : List Char) :
    ¬ Dangling (front ++ ' ' :: w.chars) := by
  rintro ⟨conj, before, heq⟩
  have hkeyword : ' ' ∉ conj.keyword.toList := by cases conj <;> decide
  have hword : ' ' ∉ w.chars.map Char.toLower := by
    intro hmem
    obtain ⟨c, hc, hlower⟩ := List.mem_map.1 hmem
    rw [eq_blank_of_toLower hlower] at hc
    exact absurd (w.plain ' ' hc) (by decide)
  rw [List.map_append, List.map_cons] at heq
  -- the last blank is the one before the word, and the one before the keyword
  rcases List.append_eq_append_iff.1 heq with ⟨between, -, htail⟩ | ⟨between, -, htail⟩
  · cases between with
    | nil => exact w.not_keyword conj (List.cons.inj htail).2.symm
    | cons c between =>
      rw [(List.cons.inj htail).2] at hkeyword
      exact hkeyword (List.mem_append_right _ List.mem_cons_self)
  · cases between with
    | nil => exact w.not_keyword conj (List.cons.inj htail).2
    | cons c between =>
      rw [(List.cons.inj htail).2] at hword
      exact hword (List.mem_append_right _ List.mem_cons_self)

/-- A written clause is a single one. -/
theorem WrittenClause.singleClause (clause : WrittenClause) :
    SingleClause (String.ofList clause.chars) clause.clause := by
  constructor
  · have hread := WrittenCondition.clauses_text ⟨clause, []⟩
    rw [WrittenCondition.text, WrittenCondition.chars, List.flatMap_nil, List.append_nil] at hread
    exact hread
  · rw [String.toList_ofList]
    have hpath (front : List Char) (p : BracedPath) : ¬ Dangling (front ++ p.chars) := by
      rw [BracedPath.chars, ← List.cons_append, ← List.append_assoc]
      exact not_dangling_concat (by decide) (by decide) _
    have hliteral (front : List Char) (l : Literal) : ¬ Dangling (front ++ l.chars) := by
      have hmark : l.mark.char.toLower ≠ 'd' ∧ l.mark.char.toLower ≠ 'r' := by
        cases l.mark <;> decide
      rw [Literal.chars, ← List.cons_append, ← List.append_assoc]
      exact not_dangling_concat hmark.1 hmark.2 _
    cases clause with
    | path p => exact hpath [] p
    | literal l => exact hliteral [] l
    | test p op hu spelling =>
      have hlast : (spelling.chars.map Char.toLower).getLast? = some 'y' := by
        rw [spelling.lower_eq]
        cases op <;> first | rfl | cases hu
      rcases List.eq_nil_or_concat spelling.chars with hnil | ⟨front, c, hsplit⟩
      · rw [hnil] at hlast
        cases hlast
      · rw [List.concat_eq_append] at hsplit
        rw [hsplit, List.map_append, List.map_singleton, List.getLast?_concat] at hlast
        have hc : c.toLower = 'y' := Option.some.inj hlast
        rw [chars, hsplit, ← List.cons_append, ← List.append_assoc]
        exact not_dangling_concat (by rw [hc]; decide) (by rw [hc]; decide) _
    | compare p op hb spelling right =>
      have hchars : (compare p op hb spelling right).chars
          = (p.chars ++ ' ' :: spelling.chars) ++ ' ' :: right.chars := by simp [chars]
      rw [hchars]
      cases right with
      | path right =>
        rw [List.append_cons]
        exact hpath _ right
      | literal l =>
        rw [List.append_cons]
        exact hliteral _ l
      | word w => exact w.not_dangling _

/-! ## The result -/

/-- What a dangling conjunction behind a clause comes to. -/
structure Dangles (text : String) (clause : Clause) (conj : Conjunction) : Prop where
  /-- Behind a clause without a right side it makes the clause malformed. -/
  malformed : clause.binary = false → ∀ vars,
    evaluate? vars (withDangling text conj)
        = .error (.malformed (trimmed (withDangling text conj))) ∧
      evaluate vars (withDangling text conj) = false
  /-- Behind a right side it is a part of that. -/
  right : ∀ left op right, clause = .compare left op right → op.unary = false →
    ∃ after, trim after = right ∧ ∀ vars,
      evaluate? vars (withDangling text conj)
          = compare (operand vars left) op (operand vars (trim (after ++ conj.dangling))) ∧
        evaluate vars (withDangling text conj)
          = orFalse (compare (operand vars left) op (operand vars (trim (after ++ conj.dangling))))

/-- **A dangling conjunction is malformed behind a clause without a right side**, which is a lone
placeholder, a quoted text or a test for emptiness; behind any other comparison it is read as the
end of the right side. -/
theorem dangles {text : String} {clause : Clause} (h : SingleClause text clause)
    (conj : Conjunction) : Dangles text clause conj := by
  have hclauses := h.clauses_withDangling conj
  constructor
  · intro hbinary vars
    rw [parseClause_dangling (by rw [h.parseClause_eq, hbinary])] at hclauses
    rw [evaluate?_of_single hclauses, evaluate_of_single hclauses, Clause.eval, trimmed,
      withDangling, String.toList_ofList]
    exact ⟨rfl, rfl⟩
  · rintro left op right rfl hop
    obtain ⟨after, hafter, hread⟩ := parseClause_dangling_right h.parseClause_eq hop conj
    rw [hread] at hclauses
    refine ⟨after, hafter, fun vars => ?_⟩
    rw [evaluate?_of_single hclauses, evaluate_of_single hclauses, Clause.eval]
    exact ⟨rfl, rfl⟩

/-- A test for emptiness. -/
def unset : WrittenClause := .test ⟨"x".toList, rfl⟩ .isEmpty rfl (Operator.spelling .isEmpty)

/-- A comparison with a number. -/
def notFive : WrittenClause :=
  .compare ⟨"x".toList, rfl⟩ .ne rfl (Operator.spelling .ne)
    (.word ⟨['5'], by decide, List.all_eq_true.1 rfl, fun conj => by cases conj <;> decide⟩)

theorem dangles_written :
    Dangles "\x7bx\x7d is empty" unset.clause .and ∧ Dangles "\x7bx\x7d != 5" notFive.clause .or :=
  ⟨dangles unset.singleClause .and, dangles notFive.singleClause .or⟩

/-- A number differs from itself with a dangling conjunction behind it. -/
theorem cut_guard_holds :
    String.ofList notFive.chars = "\x7bx\x7d != 5" ∧
      withDangling "\x7bx\x7d != 5" .and = "\x7bx\x7d != 5 and" ∧
      evaluate fives "\x7bx\x7d != 5" = false ∧
      evaluate fives "\x7bx\x7d != 5 and" = true ∧
      evaluate? fives "\x7bx\x7d != 5 and" = .ok true := by
  decide +kernel

end Runbook.Condition
