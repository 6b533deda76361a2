import Runbook.Proofs.Condition.Reading
import Runbook.Proofs.Condition.Verdict

/-!
# Comparisons without blanks

A quote opens only at the start of a word, so a quoted text right behind an operator is bare to the
splitter, which would not see into it behind a blank.

* `WholeClause` is a text that the splitter takes for one clause, and `Surroundings` what can stand
  around a clause in a condition;
* `across?` goes over a text as the splitter does, and `Literal.Clear` says that nothing is found in
  a quoted text that way, and no quote and no brace is open behind it if anything follows;
* `spaces_optional` is the result: the blanks around an operator can be left out of a comparison
  with a clear text, and only there;
* `spaces_matter` has a text that is not clear.
-/

namespace Runbook.Condition

variable {conj : Option Conjunction} {p q r : Place} {c : Char} {cs head rest : List Char}

/-! ## What stands around a clause -/

/-- A text that the splitter takes for one clause: it finds no conjunction there, and no quote and
no brace is open behind it. -/
structure WholeClause where
  /-- The text. -/
  chars : List Char
  /-- Nothing is found in it, where the text goes on with a blank or not at all. -/
  whole : ∀ rest, Severed rest → ∃ b, Passes conjunction? rest .start chars (.outside b)

/-- A written clause is one clause. -/
def WrittenClause.whole (clause : WrittenClause) : WholeClause :=
  ⟨clause.chars, fun _ hr => clause.passes hr⟩

/-- A conjunction in any letter case. -/
structure Joint where
  /-- The conjunction. -/
  conj : Conjunction
  /-- How it is written. -/
  spelling : Spelling conj.keyword

/-- A conjunction with a blank on either side. -/
def Joint.chars (j : Joint) : List Char := ' ' :: (j.spelling.chars ++ [' '])

/-- What stands around a clause in a condition. -/
structure Surroundings where
  /-- The clauses before it, each with the conjunction behind. -/
  before : List (WholeClause × Joint)
  /-- The clauses behind it, each with the conjunction before. -/
  after : List (Joint × WholeClause)

namespace Surroundings

/-- The text before a clause. -/
def front (s : Surroundings) : List Char :=
  s.before.flatMap fun part => part.1.chars ++ part.2.chars

/-- The text behind a clause. -/
def back (s : Surroundings) : List Char :=
  s.after.flatMap fun part => part.1.chars ++ part.2.chars

/-- The text of a condition with the clause given. -/
def text (s : Surroundings) (clause : List Char) : String :=
  String.ofList (s.front ++ (clause ++ s.back))

end Surroundings

/-- The splitter ends a clause at a conjunction behind it. -/
theorem splitFrom_joint (conj : Option Conjunction) (before : List Char) (b : Bool) (j : Joint)
    (cs : List Char) :
    splitFrom conj before (.outside b) (j.chars ++ cs)
      = (conj, before.reverse) :: splitFrom (some j.conj) [] .start cs := by
  have hconj := conjunction?_spelled j.conj j.spelling cs
  have hchars : j.chars ++ cs = ' ' :: (j.spelling.chars ++ ' ' :: cs) := by simp [Joint.chars]
  rw [hchars, splitFrom_found ((if_pos (Place.exposes_outside rfl)).trans hconj)]

namespace Surroundings

/-- What stands before a clause is split off, whatever the clause. -/
theorem splitFrom_front (s : Surroundings) :
    ∃ (heads : List (Option Conjunction × List Char)) (conj : Option Conjunction), ∀ cs,
      splitFrom none [] .start (s.front ++ cs) = heads ++ splitFrom conj [] .start cs := by
  obtain ⟨before, after⟩ := s
  show ∃ heads conj, ∀ cs, splitFrom none [] .start (before.flatMap _ ++ cs) = _
  generalize (none : Option Conjunction) = conj
  induction before generalizing conj with
  | nil => exact ⟨[], conj, fun _ => rfl⟩
  | cons part before ih =>
    obtain ⟨clause, joint⟩ := part
    obtain ⟨heads, last, hmore⟩ := ih (some joint.conj)
    refine ⟨(conj, clause.chars) :: heads, last, fun cs => ?_⟩
    rw [List.flatMap_cons, List.append_assoc, List.append_assoc]
    obtain ⟨b, hclause⟩ := clause.whole (joint.chars ++ (before.flatMap (fun part =>
      part.1.chars ++ part.2.chars) ++ cs)) (severed_blank _)
    rw [splitFrom_passes hclause, splitFrom_joint, hmore, List.append_nil, List.reverse_reverse]
    rfl

/-- What stands behind a clause is split off, whatever the clause. -/
theorem splitFrom_back (s : Surroundings) :
    ∃ more : List (Option Conjunction × List Char), ∀ conj before b,
      splitFrom conj before (.outside b) s.back = (conj, before.reverse) :: more := by
  obtain ⟨before, after⟩ := s
  cases after with
  | nil => exact ⟨[], fun conj before b => by rw [back, List.flatMap_nil, splitFrom]⟩
  | cons part after =>
    refine ⟨splitFrom (some part.1.conj) [] .start (part.2.chars ++ after.flatMap fun part =>
      part.1.chars ++ part.2.chars), fun conj before b => ?_⟩
    rw [back, List.flatMap_cons, List.append_assoc, splitFrom_joint]

theorem severed_back (s : Surroundings) : Severed s.back := by
  obtain ⟨before, after⟩ := s
  cases after with
  | nil => exact severed_nil
  | cons part after => exact severed_blank _

end Surroundings

/-! ## Places behind a text -/

/-- Behind a row of characters the place tells whether the last one was a blank. -/
theorem Place.wordStart_step (p : Place) (c : Char) : (p.step c).wordStart = isBlank c := by
  unfold Place.step
  split
  · rfl
  · split_ifs <;> rfl

/-- A place that shows a character is outside of quotes and braces. -/
theorem Place.eq_outside_of_exposes {b : Bool} (h : p.exposes c = true) (hb : p.wordStart = b) :
    p = .outside b := by
  obtain ⟨wordStart, quote, depth⟩ := p
  simp only [Place.exposes, Bool.and_eq_true, Option.isNone_iff_eq_none, beq_iff_eq] at h
  obtain ⟨⟨⟨⟨rfl, rfl⟩, -⟩, -⟩, -⟩ := h
  exact congrArg (Place.mk · none 0) hb

/-- A reader that goes over two texts in a row goes over the first. -/
theorem Passes.split {α : Type} {find : List Char → Option α}
    (h : Passes find rest p (head ++ cs) r) :
    ∃ q, Passes find (cs ++ rest) p head q ∧ Passes find rest q cs r := by
  induction head generalizing p with
  | nil => exact ⟨p, .nil p, h⟩
  | cons c head ih =>
    cases h with
    | cons here more =>
      obtain ⟨q, hhead, hcs⟩ := ih more
      refine ⟨q, .cons (fun hp => ?_) hhead, hcs⟩
      rw [← List.append_assoc]
      exact here hp

theorem Passes.wordStart {α : Type} {find : List Char → Option α}
    (h : Passes find rest p (cs ++ [c]) q) : q.wordStart = isBlank c := by
  obtain ⟨_, -, hlast⟩ := h.split
  cases hlast with
  | cons _ more =>
    cases more
    exact Place.wordStart_step _ c

/-! ## Quoted texts read as bare ones -/

/-- Where the splitter stands behind a text, if it sees no conjunction there. -/
def across? : Place → List Char → Option Place
  | p, [] => some p
  | p, c :: cs =>
    if p.exposes c && (conjunction? (c :: cs)).isSome then none else across? (p.step c) cs

/-- A keyword does not reach over a character that is none of its own. -/
theorem stripWord?_within {word : List Char} (hc : c ∈ head)
    (hword : ∀ w ∈ word, w.toLower ≠ c.toLower) (rest : List Char) :
    stripWord? word (head ++ rest) = (stripWord? word head).map (· ++ rest) := by
  refine stripWord?_seam fun u v heq _ hlower => ?_
  have hmem : c.toLower ∈ u.map Char.toLower := by
    rw [hlower]
    exact List.mem_map_of_mem hc
  obtain ⟨w, hw, hwc⟩ := List.mem_map.1 hmem
  rw [heq] at hword
  exact absurd hwc (hword w (List.mem_append_left v hw))

/-- A conjunction does not reach over a quote. -/
theorem conjunction?_within (hc : c ∈ head) (hq : Place.isQuote c = true) (rest : List Char) :
    conjunction? (head ++ rest) = none ↔ conjunction? head = none := by
  have hkeyword (word : List Char)
      (hword : word.all (fun w => w.toLower != '"' && w.toLower != '\'') = true) :
      stripWord? word (head ++ rest) = (stripWord? word head).map (· ++ rest) := by
    refine stripWord?_within hc (fun w hw heq => ?_) rest
    have hlower := List.all_eq_true.1 hword w hw
    simp only [Place.isQuote, Bool.or_eq_true, beq_iff_eq] at hq
    rcases hq with rfl | rfl <;> simp [heq] at hlower
  rw [conjunction?, conjunction?, hkeyword _ rfl, hkeyword _ rfl]
  cases stripWord? " and ".toList head <;> simp

theorem passes_cons_iff {α : Type} {find : List Char → Option α} :
    Passes find rest p (c :: cs) q ↔
      (p.exposes c = true → find (c :: (cs ++ rest)) = none) ∧
        Passes find rest (p.step c) cs q := by
  refine ⟨fun h => ?_, fun h => .cons h.1 h.2⟩
  cases h with
  | cons here more => exact ⟨here, more⟩

theorem across?_cons_iff :
    across? p (c :: cs) = some q ↔
      (p.exposes c = true → conjunction? (c :: cs) = none) ∧ across? (p.step c) cs = some q := by
  rw [across?]
  cases p.exposes c <;> cases conjunction? (c :: cs) <;> simp

/-- What the splitter sees in a text that ends with a quote does not depend on what follows. -/
theorem passes_iff_across (hc : Place.isQuote c = true) (cs rest : List Char) :
    Passes conjunction? rest p (cs ++ [c]) q ↔ across? p (cs ++ [c]) = some q := by
  induction cs generalizing p with
  | nil =>
    have hblank : c ≠ ' ' := by
      rintro rfl
      cases hc
    rw [List.nil_append, passes_cons_iff, across?_cons_iff]
    simp only [conjunction?_of_ne_blank hblank, implies_true, true_and, across?, Option.some.injEq]
    constructor
    · rintro ⟨⟩
      rfl
    · rintro rfl
      exact .nil _
  | cons d cs ih =>
    have hhere := conjunction?_within (show c ∈ d :: (cs ++ [c]) by simp) hc rest
    rw [List.cons_append] at hhere ⊢
    rw [passes_cons_iff, across?_cons_iff, ih, hhere]

namespace Literal

variable (l : Literal)

/-- What the splitter sees in a quoted text does not depend on what follows. -/
theorem passes_iff (rest : List Char) :
    Passes conjunction? rest p l.chars q ↔ across? p l.chars = some q :=
  passes_iff_across l.mark.isQuote_char (l.mark.char :: l.text) rest

/-- Behind a quoted text there is no start of a word. -/
theorem wordStart_passes (h : Passes conjunction? rest p l.chars q) : q.wordStart = false := by
  have hconcat : Passes conjunction? rest p ((l.mark.char :: l.text) ++ [l.mark.char]) q := h
  exact hconcat.wordStart.trans l.mark.isBlank_char

/-- Whether the splitter, with the first quote no quote to it, goes over a quoted text, and leaves
no quote and no brace open if anything follows. -/
def Clear (rest : List Char) : Prop :=
  ∃ q, across? (.outside false) l.chars = some q ∧ (q = .outside false ∨ rest = [])

end Literal

/-! ## A comparison with and without blanks -/

namespace BracedPath

/-- A comparison with a quoted text, with no blanks around the operator. -/
def unspaced (path : BracedPath) (op : Operator) (l : Literal) : List Char :=
  path.chars ++ (op.symbol.toList ++ l.chars)

/-- A comparison with a quoted text, with a blank on either side of the operator. -/
def spaced (path : BracedPath) (op : Operator) (l : Literal) : List Char :=
  path.chars ++ ' ' :: (op.symbol.toList ++ ' ' :: l.chars)

end BracedPath

variable {path : BracedPath} {op : Operator} {l : Literal}

/-- An operator that is no word is found before a quote. -/
theorem operator?_quote (hop : op.worded = false) (mark : Mark) (cs : List Char) :
    operator? (op.symbol.toList ++ mark.char :: cs) = some (op, mark.char :: cs) := by
  have hfind : tokens.find? (Token.fits ((op.symbol.toList ++ [mark.char]).map Char.toLower))
      = some op.token := by
    cases op <;> cases mark <;> first | rfl | cases hop
  have hstrip : op.token.strip? ((op.symbol.toList ++ [mark.char]) ++ cs)
      = some (mark.char :: cs) := by
    have hword : stripWord? op.token.text (op.symbol.toList ++ mark.char :: cs)
        = some (mark.char :: cs) := by
      refine stripWord?_append ?_ _
      rw [Operator.token, Operator.lead, if_neg (by simp [hop])]
      rfl
    have hunary : op.unary = false := Operator.unary_of_not_worded hop
    rw [Token.strip?, List.append_assoc, List.singleton_append, hword]
    simp [Operator.token, hop, hunary]
  have hfound := operator?_eq_some hfind hstrip
  rw [List.append_assoc, List.singleton_append] at hfound
  exact hfound

/-- A comparison without blanks is read as its path, its operator and what begins with the quote. -/
theorem parseClause_unspaced (hop : op.worded = false) (mark : Mark) (cs : List Char) :
    parseClause (path.chars ++ (op.symbol.toList ++ mark.char :: cs))
      = .compare path.chars op (trim (mark.char :: cs)) := by
  have hfound : findOperator path.chars.reverse (.outside false)
      (op.symbol.toList ++ mark.char :: cs) = some (path.chars, op, mark.char :: cs) := by
    have hread := operator?_quote hop mark cs
    have hord := op.symbol_ordinary
    cases hsymbol : op.symbol.toList with
    | nil => cases op <;> cases hsymbol
    | cons c symbol =>
      rw [hsymbol] at hread hord
      have hsee : findOperator path.chars.reverse (.outside false)
          (c :: (symbol ++ mark.char :: cs))
          = some (path.chars.reverse.reverse, op, mark.char :: cs) :=
        findOperator_found (hord c List.mem_cons_self) hread
      rwa [List.reverse_reverse] at hsee
  rw [parseClause, findOperator_passes path.passes, List.append_nil, hfound]
  show Clause.compare (trim path.chars) op _ = _
  rw [trim_of_tight path.tight]

/-- The two ways to write a comparison are read as the same clause. -/
theorem parseClause_spaced (hop : op.worded = false) (path : BracedPath) (l : Literal) :
    parseClause (path.unspaced op l) = .compare path.chars op l.chars ∧
      parseClause (path.spaced op l) = .compare path.chars op l.chars := by
  constructor
  · rw [BracedPath.unspaced, Literal.chars, parseClause_unspaced hop, ← Literal.chars,
      trim_of_tight l.tight]
  · exact WrittenClause.parseClause_chars
      (.compare path op (Operator.unary_of_not_worded hop) op.spelling (.literal l))

/-- There is no conjunction in what stands before the quoted text. -/
theorem passes_left (hop : op.worded = false) :
    Passes conjunction? rest .start (path.chars ++ op.symbol.toList) (.outside false) := by
  have hplain : ∀ c ∈ op.symbol.toList, inWord c = true :=
    List.all_eq_true.1 (by cases op <;> first | rfl | cases hop)
  obtain ⟨b, hsymbol⟩ : ∃ b,
      Passes conjunction? rest (.outside false) op.symbol.toList (.outside b) := passes_plain hplain
  suffices hb : b = false by
    rw [hb] at hsymbol
    exact path.passes.append hsymbol
  rcases List.eq_nil_or_concat op.symbol.toList with hnil | ⟨symbol, c, hsplit⟩
  · cases op <;> cases hnil
  · rw [List.concat_eq_append] at hsplit
    have hc : inWord c = true := hplain c (by simp [hsplit])
    simp only [inWord, Bool.not_eq_true', Bool.or_eq_false_iff] at hc
    rw [hsplit] at hsymbol
    exact hsymbol.wordStart.trans hc.1.1.1

namespace Surroundings

variable {s : Surroundings}

/-- Behind a clause there is nothing, or a blank and a letter. -/
theorem back_cases (s : Surroundings) :
    s.back = [] ∨ ∃ c cs, s.back = ' ' :: c :: cs ∧ isBlank c = false := by
  obtain ⟨before, after⟩ := s
  cases after with
  | nil => exact .inl rfl
  | cons part after =>
    obtain ⟨⟨conj, ⟨chars, hlower⟩⟩, clause⟩ := part
    cases chars with
    | nil => cases conj <;> exact absurd hlower (by decide)
    | cons c chars =>
      refine .inr ⟨c, _, rfl, ?_⟩
      have hc : isBlank c.toLower = false := by
        have hkeyword : conj.keyword.toList.all (fun k => !isBlank k) = true := by
          cases conj <;> rfl
        simpa using List.all_eq_true.1 hkeyword _ (hlower ▸ List.mem_cons_self)
      rwa [isBlank_toLower] at hc

/-- Behind a quoted text that the splitter goes over, with nothing but blanks up to the cut, it
stands outside of quotes and braces, if anything follows. -/
theorem clear_of_cut {blanks : List Char} {more : List (Option Conjunction × List Char)}
    (hpasses : Passes conjunction? rest (.outside false) (l.chars ++ blanks) q)
    (hblanks : ∀ c ∈ blanks, isBlank c = true) (hback : s.back = blanks ++ rest)
    (hcut : Cut q rest more) : l.Clear s.back := by
  obtain ⟨place, hl, htail⟩ := hpasses.split
  refine ⟨place, (l.passes_iff _).1 hl, ?_⟩
  rcases s.back_cases with hnil | ⟨c, cs, hcons, hc⟩
  · exact .inr hnil
  left
  rw [hcons] at hback
  cases blanks with
  | nil =>
    -- the blank behind the text is seen
    cases htail
    rw [List.nil_append] at hback
    rw [← hback] at hcut
    cases hcut with
    | joint seen => exact Place.eq_outside_of_exposes seen (l.wordStart_passes hl)
  | cons d blanks =>
    exfalso
    obtain ⟨-, hcs⟩ := List.cons.inj hback
    cases blanks with
    | nil =>
      -- the letter behind the blank begins no conjunction
      rw [List.append_eq, List.nil_append] at hcs
      rw [← hcs] at hcut
      cases hcut with
      | joint _ found =>
        have hne : c ≠ ' ' := by
          rintro rfl
          cases hc
        rw [conjunction?_of_ne_blank hne] at found
        cases found
    | cons e blanks =>
      obtain ⟨rfl, -⟩ := List.cons.inj hcs
      rw [hblanks c (by simp)] at hc
      cases hc

section

variable {more : List (Option Conjunction × List Char)}

/-- A comparison with blanks is one clause. -/
theorem splitFrom_spaced
    (hmore : ∀ conj before b,
      splitFrom conj before (.outside b) s.back = (conj, before.reverse) :: more)
    (hop : op.worded = false) (conj : Option Conjunction) :
    splitFrom conj [] .start (path.spaced op l ++ s.back) = (conj, path.spaced op l) :: more := by
  have hbinary : op.unary = false := Operator.unary_of_not_worded hop
  obtain ⟨b, hspaced⟩ :=
    (WrittenClause.compare path op hbinary op.spelling (.literal l)).passes s.severed_back
  have hsplit := splitFrom_passes hspaced conj []
  rw [hmore, List.append_nil, List.reverse_reverse] at hsplit
  exact hsplit

/-- A comparison without blanks is one clause if the quoted text is clear. -/
theorem splitFrom_unspaced
    (hmore : ∀ conj before b,
      splitFrom conj before (.outside b) s.back = (conj, before.reverse) :: more)
    (hop : op.worded = false) (hclear : l.Clear s.back) (conj : Option Conjunction) :
    splitFrom conj [] .start (path.unspaced op l ++ s.back)
      = (conj, path.unspaced op l) :: more := by
  obtain ⟨q, hacross, hq⟩ := hclear
  have hunspaced : Passes conjunction? s.back .start (path.unspaced op l) q := by
    rw [BracedPath.unspaced, ← List.append_assoc]
    exact (passes_left hop).append ((l.passes_iff s.back).2 hacross)
  rw [splitFrom_passes hunspaced, List.append_nil]
  rcases hq with rfl | hnil
  · rw [hmore, List.reverse_reverse]
  · have hend := hmore conj [] true
    rw [hnil, splitFrom] at hend ⊢
    rw [List.reverse_reverse, ← (List.cons.inj hend).2]

end

/-- If the first clause is read as the comparison, then the quoted text is clear: else the splitter
takes less for a clause, or more. -/
theorem clear_of_splitFrom (hop : op.worded = false) {conj : Option Conjunction}
    {first : List Char} {more : List (Option Conjunction × List Char)}
    (hsplit : splitFrom conj [] .start (path.unspaced op l ++ s.back) = (conj, first) :: more)
    (hread : parseClause first = .compare path.chars op l.chars) : l.Clear s.back := by
  obtain ⟨right, rest, q, _, hright, hpasses, hcut, hfirst⟩ :=
    exists_cut (.outside false) (l.chars ++ s.back)
  rw [BracedPath.unspaced, ← List.append_assoc, List.append_assoc (path.chars ++ op.symbol.toList),
    splitFrom_passes (passes_left hop), List.append_nil, hfirst, List.reverse_reverse] at hsplit
  obtain rfl : path.chars ++ op.symbol.toList ++ right = first :=
    congrArg Prod.snd (List.cons.inj hsplit).1
  cases right with
  | nil =>
    -- the quote begins no conjunction
    rw [List.nil_append] at hright
    rw [← hright] at hcut
    cases hcut with
    | joint _ found =>
      have hne : l.mark.char ≠ ' ' := by cases l.mark <;> decide
      rw [conjunction?_of_ne_blank hne] at found
      cases found
  | cons c right =>
    obtain ⟨hc, -⟩ := List.cons.inj hright
    obtain rfl : l.mark.char = c := hc
    rw [List.append_assoc, parseClause_unspaced hop] at hread
    have htrim : trim (l.mark.char :: right) = l.chars := (Clause.compare.inj hread).2.2
    rw [trim, trimStart_cons_of_not_blank l.mark.isBlank_char] at htrim
    obtain ⟨blanks, hblanks, hall⟩ := exists_trimEnd (l.mark.char :: right)
    rw [htrim] at hblanks
    rw [hblanks] at hpasses hright
    rw [List.append_assoc] at hright
    exact clear_of_cut hpasses hall (List.append_cancel_left hright) hcut

end Surroundings

/-! ## The result -/

/-- What leaving out the blanks around an operator comes to. -/
structure SpacesOptional (s : Surroundings) (path : BracedPath) (op : Operator) (l : Literal) : Prop
    where
  /-- The condition is read as the same clauses exactly if the quoted text is clear. -/
  read_iff : clauses (s.text (path.unspaced op l)) = clauses (s.text (path.spaced op l)) ↔
    l.Clear s.back
  /-- Then both readings give the same for any variables. -/
  agree : l.Clear s.back → ∀ vars,
    evaluate vars (s.text (path.unspaced op l)) = evaluate vars (s.text (path.spaced op l)) ∧
      evaluate? vars (s.text (path.unspaced op l)) = evaluate? vars (s.text (path.spaced op l))

/-- **Blanks around an operator are optional before a clear text**: in any condition a comparison of
a path with a quoted text is read as the same clause without them, exactly if the splitter goes over
the quoted text though it does not see the quote. -/
theorem spaces_optional (s : Surroundings) (path : BracedPath) (op : Operator) (l : Literal)
    (hop : op.worded = false) : SpacesOptional s path op l := by
  obtain ⟨hparse, hparse'⟩ := parseClause_spaced hop path l
  obtain ⟨heads, conj, hheads⟩ := s.splitFrom_front
  obtain ⟨more, hmore⟩ := s.splitFrom_back
  have hclauses (clause : List Char) : clauses (s.text clause)
      = heads.map (fun part => (part.1, parseClause part.2))
        ++ (splitFrom conj [] .start (clause ++ s.back)).map
          (fun part => (part.1, parseClause part.2)) := by
    rw [clauses, split, Surroundings.text, String.toList_ofList, hheads, List.map_append]
  have hspaced : splitFrom conj [] .start (path.spaced op l ++ s.back)
      = (conj, path.spaced op l) :: more := Surroundings.splitFrom_spaced hmore hop conj
  have hread (hclear : l.Clear s.back) :
      clauses (s.text (path.unspaced op l)) = clauses (s.text (path.spaced op l)) := by
    rw [hclauses, hclauses, hspaced, Surroundings.splitFrom_unspaced hmore hop hclear,
      List.map_cons, List.map_cons, hparse, hparse']
  refine ⟨⟨fun h => ?_, hread⟩, fun hclear vars => ?_⟩
  · rw [hclauses, hclauses, hspaced] at h
    obtain ⟨first, rest, hrow⟩ := splitFrom_row conj .start (path.unspaced op l ++ s.back)
    have hfirst := hrow []
    rw [hfirst] at h
    have hclause := (List.cons.inj (List.append_cancel_left h)).1
    refine Surroundings.clear_of_splitFrom hop hfirst ?_
    exact (congrArg Prod.snd hclause).trans hparse'
  · rw [evaluate?_eq, evaluate?_eq, evaluate, evaluate, outcomes, outcomes, hread hclear]
    exact ⟨rfl, rfl⟩

/-- A condition with three clauses, where the genre is told in the second. -/
def playing : Surroundings where
  before := [((WrittenClause.path ⟨"playing".toList, rfl⟩).whole, ⟨.and, ⟨"and".toList, rfl⟩⟩)]
  after := [(⟨.or, ⟨"OR".toList, rfl⟩⟩, (WrittenClause.path ⟨"forced".toList, rfl⟩).whole)]

/-- The path of a genre. -/
def genre : BracedPath := ⟨"genre".toList, rfl⟩

theorem spaces_optional_clear :
    playing.text (genre.unspaced .eq ⟨.single, "R&B <band> \x7bx\x7d".toList, by decide⟩)
        = "\x7bplaying\x7d and \x7bgenre\x7d=='R&B <band> \x7bx\x7d' OR \x7bforced\x7d" ∧
      SpacesOptional playing genre .eq ⟨.single, "R&B <band> \x7bx\x7d".toList, by decide⟩ ∧
      Literal.Clear ⟨.single, "R&B <band> \x7bx\x7d".toList, by decide⟩ playing.back :=
  ⟨rfl, spaces_optional playing genre .eq _ rfl, .outside false, by decide, .inl rfl⟩

/-- A text with a conjunction in it. -/
def rockAndRoll : Literal := ⟨.single, "rock and roll".toList, by decide⟩

/-- The variables of the case below. -/
def rock : Variables := KeyMap.ofList [("genre", .string "rock and roll")]

/-- Without the blanks a conjunction in the quotes splits the condition. -/
theorem spaces_matter :
    Surroundings.text ⟨[], []⟩ (genre.spaced .eq rockAndRoll)
        = "\x7bgenre\x7d == 'rock and roll'" ∧
      Surroundings.text ⟨[], []⟩ (genre.unspaced .eq rockAndRoll)
        = "\x7bgenre\x7d=='rock and roll'" ∧
      evaluate rock "\x7bgenre\x7d == 'rock and roll'" = true ∧
      evaluate? rock "\x7bgenre\x7d == 'rock and roll'" = .ok true ∧
      evaluate rock "\x7bgenre\x7d=='rock and roll'" = false ∧
      evaluate? rock "\x7bgenre\x7d=='rock and roll'" = .error (.malformed "roll'") := by
  decide +kernel

end Runbook.Condition
