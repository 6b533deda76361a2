import Runbook.Proofs.Condition.Written
import Runbook.Proofs.Template.Pieces

/-!
# Scanning conditions

The splitter of clauses and the finder of operators go over a text with the same places.  What they
do is told here for the kinds of text that a condition is written with.

* `stripWord?_append`, `stripWord?_eq_none` and `stripWord?_other` say when a keyword stands at the
  start of a text, and `stripWord?_seam` when it does at that of two texts in a row;
* `splitFrom_found` and `splitFrom_step` are the two things that the splitter does with a character;
* `Passes` says that a reader goes over a text without finding anything; `splitFrom_passes` and
  `findOperator_passes` are what that means for the two readers;
* `exists_cut` says that the splitter goes over a clause in this way up to a `Cut`, and
  `splitFrom_row` is the form of the row that it gives;
* `BracedPath.passes` and `Literal.passes` say that paths in braces and quoted texts hide all they
  hold, whatever the reader looks for;
* `WrittenClause.passes` says that no clause holds a conjunction, and `operator?_spelled` that an
  operator is found in any letter case.
-/

namespace Runbook.Condition

variable {c : Char} {cs head rest word : List Char} {p : Place}

/-! ## Keywords at the start of a text -/

/-- No other character than the blank has the blank as its lower case. -/
theorem eq_blank_of_toLower (h : c.toLower = ' ') : c = ' ' := by
  unfold Char.toLower at h
  split at h
  · next hc =>
    have hv : c.val + ('a'.val - 'A'.val) = ' '.val := congrArg Char.val h
    have hlow : 'A'.val ≤ c.val := hc.1
    have hhigh : c.val ≤ 'Z'.val := hc.2
    simp only [UInt32.le_iff_toNat_le, ← UInt32.toNat_inj, UInt32.toNat_add] at hv hlow hhigh
    have : ('a'.val - 'A'.val).toNat = 32 := rfl
    have : 'A'.val.toNat = 65 := rfl
    have : 'Z'.val.toNat = 90 := rfl
    have : ' '.val.toNat = 32 := rfl
    omega
  · exact h

/-- A keyword in any letter case is stripped off. -/
theorem stripWord?_append (h : head.map Char.toLower = word.map Char.toLower) (rest : List Char) :
    stripWord? word (head ++ rest) = some rest := by
  induction word generalizing head with
  | nil =>
    have hnil : head = [] := by simpa using h
    rw [hnil]
    rfl
  | cons w word ih =>
    cases head with
    | nil => simp at h
    | cons d head =>
      simp only [List.map_cons, List.cons.injEq] at h
      rw [List.cons_append, stripWord?, if_pos h.1.symm]
      exact ih h.2

/-- Whether two texts differ at a position that both have. -/
def differ (a b : List Char) : Bool := (a.zip b).any fun pair => pair.1 != pair.2

theorem differ_cons {a b : Char} {as bs : List Char} :
    differ (a :: as) (b :: bs) = (a != b || differ as bs) := rfl

/-- A text that differs from a keyword in any letter case does not begin with it. -/
theorem stripWord?_eq_none (h : differ (word.map Char.toLower) (head.map Char.toLower) = true)
    (rest : List Char) : stripWord? word (head ++ rest) = none := by
  induction word generalizing head with
  | nil => simp [differ] at h
  | cons w word ih =>
    cases head with
    | nil => simp [differ] at h
    | cons d head =>
      rw [List.map_cons, List.map_cons, differ_cons, Bool.or_eq_true] at h
      rw [List.cons_append, stripWord?]
      by_cases hd : w.toLower = d.toLower
      · rw [if_pos hd]
        refine ih (h.resolve_left ?_)
        simp [hd]
      · rw [if_neg hd]

/-- A keyword that stands in a text stands there whatever follows. -/
theorem stripWord?_append_of_some {after : List Char} (h : stripWord? word head = some after)
    (rest : List Char) : stripWord? word (head ++ rest) = some (after ++ rest) := by
  fun_induction stripWord? word head with
  | case1 head => rw [← Option.some.inj h, stripWord?]
  | case2 => cases h
  | case3 w word c head heq ih =>
    rw [List.cons_append, stripWord?, if_pos heq]
    exact ih h
  | case4 => cases h

/-- A keyword that stands at the start of two texts in a row, but not in the first, begins with the
first and goes on in the second. -/
theorem exists_split_of_stripWord? {after : List Char} (hhead : stripWord? word head = none)
    (h : stripWord? word (head ++ rest) = some after) :
    ∃ u v, word = u ++ v ∧ v ≠ [] ∧ u.map Char.toLower = head.map Char.toLower ∧
      stripWord? v rest = some after := by
  fun_induction stripWord? word head with
  | case1 => cases hhead
  | case2 w word => exact ⟨[], w :: word, rfl, List.cons_ne_nil _ _, rfl, h⟩
  | case3 w word c head heq ih =>
    rw [List.cons_append, stripWord?, if_pos heq] at h
    obtain ⟨u, v, rfl, hv, hlower, hstrip⟩ := ih hhead h
    refine ⟨w :: u, v, rfl, hv, ?_, hstrip⟩
    rw [List.map_cons, List.map_cons, heq, hlower]
  | case4 w word c head hne =>
    rw [List.cons_append, stripWord?, if_neg hne] at h
    cases h

/-- A keyword stands at the start of two texts in a row just if it stands in the first, where it
cannot lie across the seam. -/
theorem stripWord?_seam
    (h : ∀ u v, word = u ++ v → v ≠ [] → u.map Char.toLower = head.map Char.toLower →
      stripWord? v rest = none) :
    stripWord? word (head ++ rest) = (stripWord? word head).map (· ++ rest) := by
  cases hhead : stripWord? word head with
  | some after => exact stripWord?_append_of_some hhead rest
  | none =>
    cases hboth : stripWord? word (head ++ rest) with
    | none => rfl
    | some after =>
      obtain ⟨u, v, hword, hv, hlower, hstrip⟩ := exists_split_of_stripWord? hhead hboth
      rw [h u v hword hv hlower] at hstrip
      cases hstrip

/-! ## Conjunctions at the start of a text -/

/-- A clause may go on with a text that is empty or begins with a blank. -/
def Severed (rest : List Char) : Prop := ∀ c, rest.head? = some c → c = ' '

theorem severed_nil : Severed [] := by simp [Severed]

theorem severed_blank (rest : List Char) : Severed (' ' :: rest) := by simp [Severed]

/-- A keyword and a blank do not stand at the start of another word. -/
theorem stripWord?_other {keyword : List Char} (hk : ∀ k ∈ keyword, k.toLower ≠ ' ')
    (hw : ∀ c ∈ word, c ≠ ' ') (hr : Severed rest)
    (hne : word.map Char.toLower ≠ keyword.map Char.toLower) :
    stripWord? (keyword ++ [' ']) (word ++ rest) = none := by
  induction keyword generalizing word with
  | nil =>
    cases word with
    | nil => exact absurd rfl hne
    | cons c word =>
      have hc : c.toLower ≠ ' ' := fun h => hw c List.mem_cons_self (eq_blank_of_toLower h)
      rw [List.nil_append, List.cons_append, stripWord?]
      exact if_neg fun h => hc h.symm
  | cons k keyword ih =>
    have hblank : k.toLower ≠ ' ' := hk k List.mem_cons_self
    cases word with
    | nil =>
      cases rest with
      | nil => rfl
      | cons c rest =>
        obtain rfl : c = ' ' := hr c rfl
        rw [List.cons_append, List.nil_append, stripWord?]
        exact if_neg hblank
    | cons c word =>
      rw [List.cons_append, List.cons_append, stripWord?]
      by_cases hc : k.toLower = c.toLower
      · rw [if_pos hc]
        refine ih (fun k hk' => hk k (List.mem_cons_of_mem _ hk'))
          (fun c hc' => hw c (List.mem_cons_of_mem _ hc')) fun h => hne ?_
        rw [List.map_cons, List.map_cons, h, hc]
      · rw [if_neg hc]

theorem conjunction?_eq_none (hand : stripWord? " and ".toList cs = none)
    (hor : stripWord? " or ".toList cs = none) : conjunction? cs = none := by
  rw [conjunction?, hand, hor]
  rfl

/-- A conjunction has a blank before it. -/
theorem conjunction?_of_ne_blank (h : c ≠ ' ') (cs : List Char) : conjunction? (c :: cs) = none := by
  have hc : ' '.toLower ≠ c.toLower := fun he => h (eq_blank_of_toLower he.symm)
  refine conjunction?_eq_none ?_ ?_
  · exact if_neg hc
  · exact if_neg hc

/-- A conjunction has an `a` or an `o` after its first blank. -/
theorem conjunction?_of_second (ha : c.toLower ≠ 'a') (ho : c.toLower ≠ 'o') (cs : List Char) :
    conjunction? (' ' :: c :: cs) = none := by
  have hand : ¬ 'a'.toLower = c.toLower := fun h => ha h.symm
  have hor : ¬ 'o'.toLower = c.toLower := fun h => ho h.symm
  refine conjunction?_eq_none ?_ ?_
  · exact (if_pos rfl).trans (if_neg hand)
  · exact (if_pos rfl).trans (if_neg hor)

/-- A conjunction is found in any letter case. -/
theorem conjunction?_spelled (conj : Conjunction) (spelling : Spelling conj.keyword)
    (rest : List Char) :
    conjunction? (' ' :: (spelling.chars ++ ' ' :: rest)) = some (conj, rest) := by
  have hsplit : ' ' :: (spelling.chars ++ ' ' :: rest) = (' ' :: (spelling.chars ++ [' '])) ++ rest := by
    simp
  have hlower : (' ' :: (spelling.chars ++ [' '])).map Char.toLower
      = ' ' :: (conj.keyword.toList ++ [' ']) := by
    rw [List.map_cons, List.map_append, spelling.lower_eq]
    rfl
  rw [hsplit]
  cases conj with
  | and =>
    have hstrip : stripWord? " and ".toList ((' ' :: (spelling.chars ++ [' '])) ++ rest)
        = some rest := stripWord?_append (by rw [hlower]; rfl) rest
    rw [conjunction?, hstrip]
  | or =>
    have hand : stripWord? " and ".toList ((' ' :: (spelling.chars ++ [' '])) ++ rest) = none :=
      stripWord?_eq_none (by rw [hlower]; rfl) rest
    have hor : stripWord? " or ".toList ((' ' :: (spelling.chars ++ [' '])) ++ rest) = some rest :=
      stripWord?_append (by rw [hlower]; rfl) rest
    rw [conjunction?, hand, hor]
    rfl

/-- A word is no conjunction. -/
theorem Word.conjunction?_eq_none (w : Word) (hr : Severed rest) :
    conjunction? (' ' :: (w.chars ++ rest)) = none := by
  have hblank : ∀ c ∈ w.chars, c ≠ ' ' := by
    rintro c hc rfl
    exact absurd (w.plain ' ' hc) (by decide)
  have hstrip : ∀ conj : Conjunction,
      stripWord? (conj.keyword.toList ++ [' ']) (w.chars ++ rest) = none := by
    intro conj
    have hkeyword : conj.keyword.toList.all (fun k => k.toLower != ' ') = true := by
      cases conj <;> rfl
    refine stripWord?_other ?_ hblank hr ?_
    · exact fun k hk => bne_iff_ne.1 (List.all_eq_true.1 hkeyword k hk)
    · have hlower : conj.keyword.toList.map Char.toLower = conj.keyword.toList := by
        cases conj <;> rfl
      rw [hlower]
      exact w.not_keyword conj
  refine Condition.conjunction?_eq_none ?_ ?_
  · exact (if_pos rfl).trans (hstrip .and)
  · exact (if_pos rfl).trans (hstrip .or)

/-! ## Places outside of quotes and braces -/

/-- A place outside of quotes and braces. -/
def Place.outside (wordStart : Bool) : Place := ⟨wordStart, none, 0⟩

/-- Whether a character is neither a quote nor a brace. -/
def ordinary (c : Char) : Bool := !(Place.isQuote c || c == '\x7b' || c == '\x7d')

variable {b : Bool}

theorem Operator.symbol_ordinary (op : Operator) : ∀ c ∈ op.symbol.toList, ordinary c = true :=
  List.all_eq_true.1 (by cases op <;> rfl)

/-- Outside of quotes and braces an ordinary character is seen. -/
theorem Place.exposes_outside (h : ordinary c = true) : (outside b).exposes c = true := by
  simp only [ordinary, Bool.not_eq_true', Bool.or_eq_false_iff] at h
  obtain ⟨⟨hquote, hopen⟩, hclose⟩ := h
  simp [exposes, outside, hquote, bne, hopen, hclose]

/-- After an ordinary character the place is still outside of quotes and braces. -/
theorem Place.step_outside (h : ordinary c = true) :
    (outside b).step c = outside (isBlank c) := by
  simp only [ordinary, Bool.not_eq_true', Bool.or_eq_false_iff] at h
  obtain ⟨⟨hquote, hopen⟩, hclose⟩ := h
  simp [step, outside, hquote, hopen, hclose]

theorem ordinary_of_inWord (h : inWord c = true) : ordinary c = true := by
  simp only [inWord, Bool.not_eq_true', Bool.or_eq_false_iff] at h
  simp [ordinary, h]

/-- What holds of no quote and no brace holds of ordinary characters only. -/
theorem ordinary_of (f : Char → Bool) (hdouble : f '"' = false) (hsingle : f '\'' = false)
    (hopen : f '\x7b' = false) (hclose : f '\x7d' = false) (h : f c = true) :
    ordinary c = true := by
  have hne : ∀ d, f d = false → c ≠ d := by
    rintro d hd rfl
    rw [hd] at h
    cases h
  simp [ordinary, Place.isQuote, hne _ hdouble, hne _ hsingle, hne _ hopen, hne _ hclose]

/-! ## The splitter, character by character -/

section Splitting

variable {after : List Char}

/-- The splitter ends a clause at a conjunction. -/
theorem splitFrom_found {next : Conjunction}
    (h : (if p.exposes c then conjunction? (c :: rest) else none) = some (next, after))
    (conj : Option Conjunction) (before : List Char) :
    splitFrom conj before p (c :: rest)
      = (conj, before.reverse) :: splitFrom (some next) [] .start after := by
  rw [splitFrom]
  split
  · next heq =>
    rw [h] at heq
    cases heq
    rfl
  · next heq => rw [h] at heq; cases heq

/-- Any other character belongs to the clause. -/
theorem splitFrom_step (h : (if p.exposes c then conjunction? (c :: rest) else none) = none)
    (conj : Option Conjunction) (before : List Char) :
    splitFrom conj before p (c :: rest) = splitFrom conj (c :: before) (p.step c) rest := by
  rw [splitFrom]
  split
  · next heq => rw [h] at heq; cases heq
  · rfl

end Splitting

/-! ## Readers that find nothing -/

section Passing

variable {α : Type} {find : List Char → Option α} {q r : Place} {before : List Char}

/-- A reader goes over a text, with `rest` left of the whole, from one place to another, and finds
nothing at the characters that it sees. -/
inductive Passes (find : List Char → Option α) (rest : List Char) :
    Place → List Char → Place → Prop where
  /-- Over no text. -/
  | nil (p : Place) : Passes find rest p [] p
  /-- Over one more character. -/
  | cons {p q : Place} {c : Char} {cs : List Char}
    (here : p.exposes c = true → find (c :: (cs ++ rest)) = none)
    (more : Passes find rest (p.step c) cs q) : Passes find rest p (c :: cs) q

/-- A reader that goes over two texts in a row goes over both. -/
theorem Passes.append (hhead : Passes find (cs ++ rest) p head q) (hcs : Passes find rest q cs r) :
    Passes find rest p (head ++ cs) r := by
  induction hhead with
  | nil p => exact hcs
  | cons here _ ih =>
    refine .cons (fun h => ?_) (ih hcs)
    rw [List.append_eq, List.append_assoc]
    exact here h

/-- A blank between two words. -/
theorem Passes.blank (here : find (' ' :: (cs ++ rest)) = none)
    (more : Passes find rest .start cs q) : Passes find rest (.outside b) (' ' :: cs) q := by
  refine .cons (fun _ => here) ?_
  rw [Place.step_outside (by decide)]
  exact more

/-- The splitter goes on behind a text in which it finds no conjunction. -/
theorem splitFrom_passes (h : Passes conjunction? rest p cs q) (conj : Option Conjunction)
    (before : List Char) :
    splitFrom conj before p (cs ++ rest) = splitFrom conj (cs.reverse ++ before) q rest := by
  induction h generalizing before with
  | nil p => rfl
  | @cons p q c cs here more ih =>
    have hnone : (if p.exposes c then conjunction? (c :: (cs ++ rest)) else none) = none := by
      by_cases hp : p.exposes c = true
      · rw [if_pos hp, here hp]
      · rw [if_neg hp]
    rw [List.cons_append, splitFrom_step hnone, ih, List.reverse_cons, List.append_assoc]
    rfl

/-- Where the splitter ends a clause, and what it gives for the rest of the text: at the end, or at
a conjunction that it sees. -/
inductive Cut (q : Place) : List Char → List (Option Conjunction × List Char) → Prop where
  /-- The end of the text. -/
  | last : Cut q [] []
  /-- A conjunction. -/
  | joint {c : Char} {cs after : List Char} {next : Conjunction} (seen : q.exposes c = true)
    (found : conjunction? (c :: cs) = some (next, after)) :
    Cut q (c :: cs) (splitFrom (some next) [] .start after)

/-- The splitter goes over the first clause without finding anything, and ends it at a cut. -/
theorem exists_cut (p : Place) (cs : List Char) :
    ∃ first rest q more, cs = first ++ rest ∧ Passes conjunction? rest p first q ∧ Cut q rest more ∧
      ∀ conj before, splitFrom conj before p cs = (conj, before.reverse ++ first) :: more := by
  induction cs generalizing p with
  | nil =>
    refine ⟨[], [], p, [], rfl, .nil p, .last, fun conj before => ?_⟩
    rw [splitFrom, List.append_nil]
  | cons c cs ih =>
    cases hfind : if p.exposes c then conjunction? (c :: cs) else none with
    | some found =>
      obtain ⟨next, after⟩ := found
      have hcut : p.exposes c = true ∧ conjunction? (c :: cs) = some (next, after) := by
        by_cases hp : p.exposes c = true
        · exact ⟨hp, by rwa [if_pos hp] at hfind⟩
        · rw [if_neg hp] at hfind
          cases hfind
      refine ⟨[], c :: cs, p, _, rfl, .nil p, .joint hcut.1 hcut.2, fun conj before => ?_⟩
      rw [splitFrom_found hfind, List.append_nil]
    | none =>
      obtain ⟨first, rest, q, more, rfl, hpasses, hcut, hsplit⟩ := ih (p.step c)
      refine ⟨c :: first, rest, q, more, rfl, .cons (fun hp => ?_) hpasses, hcut,
        fun conj before => ?_⟩
      · rwa [if_pos hp] at hfind
      · rw [splitFrom_step hfind, hsplit, List.reverse_cons, List.append_assoc]
        rfl

/-- Every clause but the first has a conjunction in front of it, and what was read before shows in
the first clause only. -/
theorem splitFrom_row (conj : Option Conjunction) (p : Place) (cs : List Char) :
    ∃ (head : List Char) (more : List (Conjunction × List Char)), ∀ before,
      splitFrom conj before p cs
        = (conj, before.reverse ++ head) :: more.map fun part => (some part.1, part.2) := by
  obtain ⟨head, rest, q, _, hcs, -, hcut, hsplit⟩ := exists_cut p cs
  cases hcut with
  | last => exact ⟨head, [], hsplit conj⟩
  | @joint c tail after next seen found =>
    have hshorter : after.length < cs.length := by
      have hafter := length_lt_of_conjunction? found
      rw [hcs, List.length_append]
      omega
    obtain ⟨first, more, hmore⟩ := splitFrom_row (some next) .start after
    refine ⟨head, (next, first) :: more, fun before => ?_⟩
    rw [hsplit, hmore]
    rfl
termination_by cs.length

/-- The finder of operators goes on behind a text in which it finds none. -/
theorem findOperator_passes (h : Passes operator? rest p cs q) (before : List Char) :
    findOperator before p (cs ++ rest) = findOperator (cs.reverse ++ before) q rest := by
  induction h generalizing before with
  | nil p => rfl
  | @cons p q c cs here more ih =>
    have hnone : (if p.exposes c then operator? (c :: (cs ++ rest)) else none) = none := by
      by_cases hp : p.exposes c = true
      · rw [if_pos hp, here hp]
      · rw [if_neg hp]
    rw [List.cons_append, findOperator, hnone, ih, List.reverse_cons, List.append_assoc]
    rfl

/-! ## Hidden texts -/

/-- Nothing is found in braces. -/
theorem passes_braces {path : List Char} (h : ∀ c ∈ path, ordinary c = true) :
    Passes find rest ⟨b, none, 1⟩ (path ++ ['\x7d']) (.outside false) := by
  induction path generalizing b with
  | nil =>
    have hstep : Place.step ⟨b, none, 1⟩ '\x7d' = .outside false := by cases b <;> rfl
    refine .cons (by simp [Place.exposes]) ?_
    rw [hstep]
    exact .nil _
  | cons c path ih =>
    have hc : ordinary c = true := h c List.mem_cons_self
    simp only [ordinary, Bool.not_eq_true', Bool.or_eq_false_iff] at hc
    obtain ⟨⟨hquote, hopen⟩, hclose⟩ := hc
    have hstep : Place.step ⟨b, none, 1⟩ c = ⟨isBlank c, none, 1⟩ := by
      simp [Place.step, hquote, hopen, hclose]
    refine .cons (by simp [Place.exposes]) ?_
    rw [hstep]
    exact ih fun d hd => h d (List.mem_cons_of_mem _ hd)

/-- Nothing is found in a path in braces. -/
theorem BracedPath.passes (path : BracedPath) :
    Passes find rest .start path.chars (.outside false) := by
  refine .cons (by simp [Place.exposes]) (passes_braces fun c hc => ?_)
  have hin : Template.inPath c = true := Template.inPath_of_isPath path.isPath c hc
  exact ordinary_of Template.inPath rfl rfl rfl rfl hin

theorem Mark.isBlank_char (mark : Mark) : isBlank mark.char = false := by cases mark <;> rfl

theorem Mark.isQuote_char (mark : Mark) : Place.isQuote mark.char = true := by cases mark <;> rfl

/-- Nothing is found in quotes. -/
theorem passes_quotes {mark : Char} {text : List Char} (hmark : isBlank mark = false)
    (h : mark ∉ text) :
    Passes find rest ⟨b, some mark, 0⟩ (text ++ [mark]) (.outside false) := by
  induction text generalizing b with
  | nil =>
    have hstep : Place.step ⟨b, some mark, 0⟩ mark = .outside false := by
      simp [Place.step, Place.outside, hmark]
    refine .cons (by simp [Place.exposes]) ?_
    rw [hstep]
    exact .nil _
  | cons c text ih =>
    have hc : c ≠ mark := fun he => h (he ▸ List.mem_cons_self)
    have hstep : Place.step ⟨b, some mark, 0⟩ c = ⟨isBlank c, some mark, 0⟩ := by
      simp [Place.step, hc]
    refine .cons (by simp [Place.exposes]) ?_
    rw [hstep]
    exact ih fun hm => h (List.mem_cons_of_mem _ hm)

/-- Nothing is found in a quoted text. -/
theorem Literal.passes (l : Literal) : Passes find rest .start l.chars (.outside false) := by
  have hstep : Place.start.step l.mark.char = ⟨false, some l.mark.char, 0⟩ := by
    simp [Place.step, Place.start, l.mark.isQuote_char, l.mark.isBlank_char]
  refine .cons (by simp [Place.exposes, Place.start, l.mark.isQuote_char]) ?_
  rw [hstep]
  exact passes_quotes l.mark.isBlank_char l.mark_notMem

end Passing

/-! ## Clauses hold no conjunctions -/

/-- There is no conjunction in a text without blanks. -/
theorem passes_plain (h : ∀ c ∈ cs, inWord c = true) :
    ∃ b', Passes conjunction? rest (.outside b) cs (.outside b') := by
  induction cs generalizing b with
  | nil => exact ⟨b, .nil _⟩
  | cons c cs ih =>
    have hc : inWord c = true := h c List.mem_cons_self
    have hblank : c ≠ ' ' := by
      rintro rfl
      exact absurd hc (by decide)
    obtain ⟨b', hcs⟩ := ih fun d hd => h d (List.mem_cons_of_mem _ hd)
    refine ⟨b', .cons (fun _ => conjunction?_of_ne_blank hblank _) ?_⟩
    rw [Place.step_outside (ordinary_of_inWord hc)]
    exact hcs

/-- Whether a text in lower case goes on behind each of its blanks, with another letter than a
conjunction. -/
def unjoined : List Char → Bool
  | [] => true
  | c :: cs => (c != ' ' || cs.head?.any fun d => d != 'a' && d != 'o') && unjoined cs

/-- There is no conjunction in a text that goes on behind its blanks with other letters. -/
theorem passes_unjoined (hu : unjoined (cs.map Char.toLower) = true)
    (ho : ∀ c ∈ cs.map Char.toLower, ordinary c = true) :
    ∃ b', Passes conjunction? rest (.outside b) cs (.outside b') := by
  induction cs generalizing b with
  | nil => exact ⟨b, .nil _⟩
  | cons c cs ih =>
    rw [List.map_cons, unjoined, Bool.and_eq_true] at hu
    rw [List.map_cons, List.forall_mem_cons] at ho
    have hc : ordinary c = true :=
      ordinary_of (fun d => ordinary d.toLower) rfl rfl rfl rfl ho.1
    have hnone : conjunction? (c :: (cs ++ rest)) = none := by
      by_cases hblank : c = ' '
      · subst hblank
        cases cs with
        | nil => simp at hu
        | cons d cs =>
          have hd : d.toLower ≠ 'a' ∧ d.toLower ≠ 'o' := by simpa using hu.1
          exact conjunction?_of_second hd.1 hd.2 _
      · exact conjunction?_of_ne_blank hblank _
    obtain ⟨b', hcs⟩ := ih hu.2 ho.2
    refine ⟨b', .cons (fun _ => hnone) ?_⟩
    rw [Place.step_outside hc]
    exact hcs

/-- There is no conjunction in an operator with the blank before it. -/
theorem passes_operator (op : Operator) (spelling : Spelling op.symbol) :
    ∃ b', Passes conjunction? rest (.outside b) (' ' :: spelling.chars) (.outside b') := by
  have hlower : (' ' :: spelling.chars).map Char.toLower = ' ' :: op.symbol.toList := by
    rw [List.map_cons, spelling.lower_eq]
    rfl
  refine passes_unjoined ?_ ?_
  · rw [hlower]
    cases op <;> decide
  · rw [hlower, List.forall_mem_cons]
    exact ⟨rfl, op.symbol_ordinary⟩

/-- There is no conjunction in an operand with the blank before it. -/
theorem Operand.passes (right : Operand) (hr : Severed rest) :
    ∃ b', Passes conjunction? rest (.outside b) (' ' :: right.chars) (.outside b') := by
  cases right with
  | path path =>
    exact ⟨false, .blank (conjunction?_of_second (by decide) (by decide) _) path.passes⟩
  | literal l =>
    have hmark : l.mark.char.toLower ≠ 'a' ∧ l.mark.char.toLower ≠ 'o' := by
      cases l.mark <;> decide
    exact ⟨false, .blank (conjunction?_of_second hmark.1 hmark.2 _) l.passes⟩
  | word w =>
    obtain ⟨b', hw⟩ : ∃ b', Passes conjunction? rest .start w.chars (.outside b') :=
      passes_plain w.plain
    exact ⟨b', .blank (w.conjunction?_eq_none hr) hw⟩

/-- There is no conjunction in a clause, where the text goes on with a blank or not at all. -/
theorem WrittenClause.passes (clause : WrittenClause) (hr : Severed rest) :
    ∃ b', Passes conjunction? rest .start clause.chars (.outside b') := by
  cases clause with
  | path path => exact ⟨false, path.passes⟩
  | literal l => exact ⟨false, l.passes⟩
  | test path op _ spelling =>
    obtain ⟨b', hop⟩ := passes_operator op spelling
    exact ⟨b', path.passes.append hop⟩
  | compare path op _ spelling right =>
    obtain ⟨_, hop⟩ := passes_operator op spelling
    obtain ⟨b', hright⟩ := right.passes hr
    exact ⟨b', path.passes.append (hop.append hright)⟩

/-! ## Operators -/

namespace Operator

/-- Whether an operator is a word, with a blank before it. -/
def worded : Operator → Bool
  | .isEmpty | .isNotEmpty | .contains | .notContains | .startsWith | .endsWith => true
  | .eq | .ne | .gt | .ge | .lt | .le => false

theorem unary_of_not_worded {op : Operator} (h : op.worded = false) : op.unary = false := by
  cases op <;> first | rfl | cases h

/-- What stands before an operator and belongs to it. -/
def lead (op : Operator) : List Char := if op.worded then [' '] else []

/-- What stands behind an operator and does not belong to it. -/
def tail (op : Operator) : List Char := if op.unary then [] else [' ']

/-- The token of an operator. -/
def token (op : Operator) : Token := ⟨op.lead ++ op.symbol.toList, op, op.worded, op.unary⟩

end Operator

namespace Token

/-- Whether a token can stand at the start of a text in lower case. -/
def fits (lower : List Char) (token : Token) : Bool := !differ (token.text.map Char.toLower) lower

/-- A token that does not fit is not found. -/
theorem strip?_eq_none {token : Token} (h : token.fits (head.map Char.toLower) = false)
    (rest : List Char) : token.strip? (head ++ rest) = none := by
  have hdiffer : differ (token.text.map Char.toLower) (head.map Char.toLower) = true := by
    simpa [fits] using h
  rw [strip?, stripWord?_eq_none hdiffer rest]

end Token

/-- No operator is found if no token fits. -/
theorem operator?_eq_none (h : ∀ token ∈ tokens, token.fits (head.map Char.toLower) = false)
    (rest : List Char) : operator? (head ++ rest) = none := by
  rw [operator?, List.findSome?_eq_none_iff]
  intro token ht
  rw [Token.strip?_eq_none (h token ht) rest]
  rfl

/-- The operator found is the one whose token fits first. -/
theorem operator?_eq_some {token : Token} {after : List Char}
    (hfind : tokens.find? (Token.fits (head.map Char.toLower)) = some token)
    (hstrip : token.strip? (head ++ rest) = some after) :
    operator? (head ++ rest) = some (token.operator, after) := by
  obtain ⟨-, pre, post, htokens, hpre⟩ := List.find?_eq_some_iff_append.1 hfind
  rw [operator?, List.findSome?_eq_some_iff]
  refine ⟨pre, token, post, htokens, ?_, ?_⟩
  · rw [hstrip]
    rfl
  · intro earlier he
    have hnot : earlier.fits (head.map Char.toLower) = false := by simpa using hpre earlier he
    rw [Token.strip?_eq_none hnot rest]
    rfl

/-- An operator in any letter case is found where it stands. -/
theorem operator?_spelled (op : Operator) (spelling : Spelling op.symbol)
    (hr : op.unary = true → rest = []) :
    operator? (op.lead ++ (spelling.chars ++ (op.tail ++ rest))) = some (op, op.tail ++ rest) := by
  have hlower : (op.lead ++ (spelling.chars ++ op.tail)).map Char.toLower
      = op.lead ++ (op.symbol.toList ++ op.tail) := by
    rw [List.map_append, List.map_append, spelling.lower_eq]
    cases op <;> rfl
  have hfind : tokens.find? (Token.fits ((op.lead ++ (spelling.chars ++ op.tail)).map Char.toLower))
      = some op.token := by
    rw [hlower]
    cases op <;> rfl
  have hword : stripWord? op.token.text (op.lead ++ (spelling.chars ++ (op.tail ++ rest)))
      = some (op.tail ++ rest) := by
    rw [← List.append_assoc]
    refine stripWord?_append ?_ _
    rw [List.map_append, spelling.lower_eq]
    cases op <;> rfl
  have hblank : (op.tail ++ rest).head?.all isBlank = true := by
    cases hu : op.unary with
    | true => rw [hr hu, Operator.tail, if_pos hu]; rfl
    | false => rw [Operator.tail, hu]; rfl
  have hunary : (op.unary && !((op.tail ++ rest).all isBlank)) = false := by
    cases hu : op.unary with
    | true => rw [hr hu, Operator.tail, if_pos hu]; rfl
    | false => rfl
  have hstrip : op.token.strip? (op.lead ++ (spelling.chars ++ (op.tail ++ rest)))
      = some (op.tail ++ rest) := by
    rw [Token.strip?, hword]
    show (if (op.worded && !_) = true then none else
      if (op.unary && !_) = true then none else _) = _
    rw [hblank, hunary]
    simp
  have hsplit : op.lead ++ (spelling.chars ++ (op.tail ++ rest))
      = (op.lead ++ (spelling.chars ++ op.tail)) ++ rest := by simp
  rw [hsplit] at hstrip ⊢
  exact operator?_eq_some hfind hstrip

/-- At the blank before an operator that is no word no operator is found. -/
theorem operator?_of_not_worded (op : Operator) (spelling : Spelling op.symbol)
    (h : op.worded = false) (rest : List Char) :
    operator? (' ' :: (spelling.chars ++ rest)) = none := by
  have hlower : (' ' :: spelling.chars).map Char.toLower = ' ' :: op.symbol.toList := by
    rw [List.map_cons, spelling.lower_eq]
    rfl
  have hfits : ∀ token ∈ tokens, token.fits (' ' :: op.symbol.toList) = false := by
    cases op <;> first | exact absurd h (by decide) | decide
  rw [← List.cons_append]
  refine operator?_eq_none ?_ rest
  rw [hlower]
  exact hfits

end Runbook.Condition
