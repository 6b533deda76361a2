import Mathlib.Data.List.Basic
import Runbook.Proofs.Condition.Numbers

/-!
# Parts of a text in conditions

The operators that look for a part compare the lowercase of both sides, and each side is put into
lowercase by itself.  Lowercase goes character by character, but for the capital sigma, which looks
at its neighbours.  So a part that stands in a text as it is written may not be found there, for want
of one final sigma.

* `lowercaseAmid` is what stands in the place of a part when the text around it is put into
  lowercase as well, and `lowercase_around` says so;
* `SigmaShifts` says that some capital sigma ends a word in the part alone and not in the text, or
  the other way round, and `sigmaShifts_iff` which can: one that is the first or the last letter;
* `lowercaseAmid_eq_iff` is that a part keeps its lowercase exactly if no sigma shifts;
* `Condition.partsFound` is the result, for conditions on two paths with any texts: what is
  contained is found where no sigma shifts, and a start or an end exactly then;
* `Condition.odysseus_missed` has a name whose first letters are not found in it.
-/

namespace Runbook

variable {before after part : List Char}

/-! ## Lowercase between two texts -/

/-- The lowercase of one character; `before` holds the characters before it, nearest first. -/
def lowerAmid (before after : List Char) (c : Char) : List Char :=
  if c = '\u03A3' then [if casedNext before && !casedNext after then '\u03C2' else '\u03C3']
  else lowerChar c

/-- The lowercase of a part of a text; `before` holds the characters before it, nearest first. -/
def lowercaseAmid (before after : List Char) : List Char → List Char
  | [] => []
  | c :: rest => lowerAmid before (rest ++ after) c ++ lowercaseAmid (c :: before) after rest

/-- A text is put into lowercase part by part. -/
theorem lowercaseFrom_append (before part after : List Char) :
    lowercaseFrom before (part ++ after) =
      lowercaseAmid before after part ++ lowercaseFrom (part.reverse ++ before) after := by
  induction part generalizing before with
  | nil => rfl
  | cons c rest ih =>
    rw [List.cons_append, lowercaseFrom, ih, lowercaseAmid, List.append_assoc]
    simp only [List.reverse_cons, List.append_assoc, List.cons_append, List.nil_append]
    rfl

theorem lowercaseFrom_eq (before cs : List Char) :
    lowercaseFrom before cs = lowercaseAmid before [] cs := by
  have h := lowercaseFrom_append before cs []
  rwa [List.append_nil, lowercaseFrom, List.append_nil] at h

/-- The lowercase of a text has in the place of a part what the part is amid the text. -/
theorem lowercase_around (before part after : List Char) :
    lowercase (before ++ part ++ after) =
      lowercaseAmid [] (part ++ after) before ++ lowercaseAmid before.reverse after part ++
        lowercaseAmid (before ++ part).reverse [] after := by
  rw [lowercase, List.append_assoc, lowercaseFrom_append, lowercaseFrom_append, lowercaseFrom_eq]
  simp only [List.append_nil, List.reverse_append, List.append_assoc]

/-- The neighbours of a character do not change how many characters its lowercase has. -/
theorem length_lowerAmid (before after before' after' : List Char) (c : Char) :
    (lowerAmid before after c).length = (lowerAmid before' after' c).length := by
  unfold lowerAmid
  split <;> rfl

theorem length_lowercaseAmid (before after before' after' part : List Char) :
    (lowercaseAmid before after part).length = (lowercaseAmid before' after' part).length := by
  induction part generalizing before before' with
  | nil => rfl
  | cons c rest ih =>
    rw [lowercaseAmid, lowercaseAmid, List.length_append, List.length_append,
      length_lowerAmid before _ before' (rest ++ after'), ih (c :: before) (c :: before')]

/-! ## Shifting sigmas -/

/-- A capital sigma between two texts ends a word: a cased letter stands before it and none after
it. -/
def endsWord (before after : List Char) : Bool := casedNext before.reverse && !casedNext after

/-- A capital sigma of a part ends a word in the part alone and not in the text around it, or the
other way round. -/
def SigmaShifts (before part after : List Char) : Prop :=
  ∃ front back, part = front ++ '\u03A3' :: back ∧
    endsWord (before ++ front) (back ++ after) ≠ endsWord front back

/-- Only capital sigmas look at their neighbours. -/
theorem lowerAmid_eq_iff {before after before' after' : List Char} {c : Char} :
    lowerAmid before after c = lowerAmid before' after' c ↔
      (c = '\u03A3' → (casedNext before && !casedNext after) =
        (casedNext before' && !casedNext after')) := by
  unfold lowerAmid
  by_cases hc : c = '\u03A3'
  · have hne : '\u03C2' ≠ '\u03C3' := by decide
    rw [if_pos hc, if_pos hc]
    cases casedNext before && !casedNext after <;>
      cases casedNext before' && !casedNext after' <;> simp [hc, hne, hne.symm]
  · simp [hc]

/-- A part has the same lowercase amid two texts exactly if each of its capital sigmas has. -/
theorem lowercaseAmid_congr {before after before' after' : List Char} :
    lowercaseAmid before after part = lowercaseAmid before' after' part ↔
      ∀ front back, part = front ++ '\u03A3' :: back →
        (casedNext (front.reverse ++ before) && !casedNext (back ++ after)) =
          (casedNext (front.reverse ++ before') && !casedNext (back ++ after')) := by
  induction part generalizing before before' with
  | nil => simp [lowercaseAmid]
  | cons c rest ih =>
    have hsplit : lowercaseAmid before after (c :: rest) = lowercaseAmid before' after' (c :: rest) ↔
        lowerAmid before (rest ++ after) c = lowerAmid before' (rest ++ after') c ∧
          lowercaseAmid (c :: before) after rest = lowercaseAmid (c :: before') after' rest := by
      rw [lowercaseAmid, lowercaseAmid]
      exact ⟨fun h => List.append_inj h (length_lowerAmid _ _ _ _ _), fun ⟨h, h'⟩ => by rw [h, h']⟩
    rw [hsplit, lowerAmid_eq_iff, ih]
    constructor
    · rintro ⟨hhere, hrest⟩ front back h
      cases front with
      | nil =>
        obtain ⟨hc, rfl⟩ := List.cons.inj h
        exact hhere hc
      | cons d front =>
        obtain ⟨rfl, htail⟩ := List.cons.inj h
        simpa using hrest front back htail
    · intro h
      refine ⟨fun hc => h [] rest (by rw [hc]; rfl), fun front back hrest => ?_⟩
      simpa using h (c :: front) back (by rw [hrest]; rfl)

/-- A part of a text keeps its lowercase exactly if no capital sigma shifts. -/
theorem lowercaseAmid_eq_iff :
    lowercaseAmid before.reverse after part = lowercase part ↔ ¬ SigmaShifts before part after := by
  rw [lowercase, lowercaseFrom_eq, lowercaseAmid_congr]
  unfold SigmaShifts endsWord
  simp only [List.append_nil, List.reverse_append, not_exists, not_and, not_not]

/-! ## Which sigmas shift -/

/-- Whether case ignores every character of a text. -/
def caseIgnores (cs : List Char) : Bool := cs.all caseIgnorableRanges.has

theorem casedNext_append (xs ys : List Char) :
    casedNext (xs ++ ys) = if caseIgnores xs then casedNext ys else casedNext xs := by
  induction xs with
  | nil => rfl
  | cons c rest ih =>
    rw [List.cons_append, casedNext, casedNext, ih]
    by_cases hc : caseIgnorableRanges.has c <;> simp [caseIgnores, hc]

theorem casedNext_of_caseIgnores {cs : List Char} (h : caseIgnores cs) : casedNext cs = false := by
  have happend := casedNext_append cs []
  rwa [List.append_nil, if_pos h] at happend

theorem caseIgnores_reverse (cs : List Char) : caseIgnores cs.reverse = caseIgnores cs :=
  List.all_reverse

/-- A capital sigma shifts if it is the last letter of the part, ends a word there, and a cased
letter follows in the text, or if it is the first letter of the part, a cased letter stands before
it in the text, and none after it. -/
theorem sigmaShifts_iff : SigmaShifts before part after ↔
    ∃ front back, part = front ++ '\u03A3' :: back ∧
      ((caseIgnores back ∧ casedNext front.reverse ∧ casedNext after) ∨
        (caseIgnores front ∧ casedNext before.reverse ∧ casedNext (back ++ after) = false)) := by
  unfold SigmaShifts
  refine exists_congr fun front => exists_congr fun back => and_congr_right fun _ => ?_
  have hfront := casedNext_append front.reverse before.reverse
  rw [caseIgnores_reverse] at hfront
  have hback := casedNext_append back after
  unfold endsWord
  rw [List.reverse_append, hfront]
  by_cases hf : caseIgnores front
  · -- alone the sigma is the first letter, so it ends no word
    have hcased : casedNext front.reverse = false :=
      casedNext_of_caseIgnores ((caseIgnores_reverse front).trans hf)
    simp [hf, hcased]
  · rw [hback]
    by_cases hb : caseIgnores back
    · simp [hf, hb, casedNext_of_caseIgnores hb]
    · simp [hf, hb]

namespace Condition

variable {vars : Variables} {op : Operator} {p q : BracedPath}

/-! ## Searching -/

/-- A search finds exactly the parts of a text. -/
theorem isPart_iff (part text : List Char) : isPart part text = true ↔ part <:+: text := by
  induction text with
  | nil => rw [isPart, List.isEmpty_iff, List.infix_nil]
  | cons c rest ih =>
    rw [isPart, Bool.or_eq_true, ih, List.isPrefixOf_iff_prefix, List.infix_cons_iff]

/-- A part of a text is found in it if none of its sigmas shifts there. -/
theorem isPart_lowercase (h : ¬ SigmaShifts before part after) :
    isPart (lowercase part) (lowercase (before ++ part ++ after)) = true := by
  rw [isPart_iff, lowercase_around, lowercaseAmid_eq_iff.2 h]
  exact List.infix_append _ _ _

/-- A text as long as the first of two texts together begins them exactly if it is that one. -/
theorem prefix_append_iff {xs ys zs : List Char} (h : xs.length = ys.length) :
    xs <+: ys ++ zs ↔ xs = ys := by
  constructor
  · intro hprefix
    exact (List.prefix_of_prefix_length_le hprefix (List.prefix_append ys zs) h.le).eq_of_length h
  · rintro rfl
    exact List.prefix_append xs zs

/-- A text as long as the last of two texts together ends them exactly if it is that one. -/
theorem suffix_append_iff {xs ys zs : List Char} (h : xs.length = ys.length) :
    xs <:+ zs ++ ys ↔ xs = ys := by
  constructor
  · intro hsuffix
    exact (List.suffix_of_suffix_length_le hsuffix (List.suffix_append zs ys) h.le).eq_of_length h
  · rintro rfl
    exact List.suffix_append zs xs

/-- The start of a text is found there exactly if none of its sigmas shifts. -/
theorem isPrefixOf_lowercase :
    (lowercase part).isPrefixOf (lowercase (part ++ after)) = true ↔ ¬ SigmaShifts [] part after := by
  have hlength := length_lowercaseAmid [] [] [] after part
  have haround := lowercase_around [] part after
  rw [List.nil_append, lowercaseAmid, List.nil_append, List.reverse_nil] at haround
  rw [haround, List.isPrefixOf_iff_prefix, ← lowercaseAmid_eq_iff, lowercase, lowercaseFrom_eq,
    prefix_append_iff hlength]
  exact eq_comm

/-- The end of a text is found there exactly if none of its sigmas shifts. -/
theorem isSuffixOf_lowercase :
    (lowercase part).isSuffixOf (lowercase (before ++ part)) = true ↔
      ¬ SigmaShifts before part [] := by
  have hlength := length_lowercaseAmid [] [] before.reverse [] part
  have haround := lowercase_around before part []
  rw [List.append_nil, lowercaseAmid, List.append_nil] at haround
  rw [haround, List.isSuffixOf_iff_suffix, ← lowercaseAmid_eq_iff, lowercase, lowercaseFrom_eq,
    suffix_append_iff hlength]
  exact eq_comm

/-! ## Conditions on two texts -/

/-- A condition has a value, the same in the strict and in the lenient reading. -/
structure Says (vars : Variables) (text : String) (value : Bool) : Prop where
  /-- The strict reading gives it. -/
  strict : evaluate? vars text = .ok value
  /-- The lenient reading gives it as well. -/
  lenient : evaluate vars text = value

/-- A comparison of two paths has the value that comes of comparing their texts. -/
theorem says_comparison {value : Bool} (hop : op.unary = false)
    (h : compare (p.filled vars) op (q.filled vars) = .ok value) :
    Says vars (comparison p op q) value := by
  have hclauses : clauses (comparison p op q) = [(none, .compare p.chars op q.chars)] :=
    clauses_comparison hop
  have heval : (Clause.compare p.chars op q.chars).eval vars = .ok value := by
    rw [Clause.eval, p.operand_chars, q.operand_chars, h]
  constructor
  · rw [evaluate?_of_single hclauses, heval]
  · rw [evaluate_of_single hclauses, heval, orFalse]

/-- What conditions find of a text that does stand in another: `p` leads to the one that is searched
and `q` to the one that is looked for. -/
structure PartsFound (vars : Variables) (p q : BracedPath) : Prop where
  /-- A part is found where it stands if none of its sigmas shifts there. -/
  contained : ∀ before after, p.filled vars = before ++ q.filled vars ++ after →
    ¬ SigmaShifts before (q.filled vars) after →
      Says vars (comparison p .contains q) true ∧ Says vars (comparison p .notContains q) false
  /-- A start is found exactly if none of its sigmas shifts. -/
  started : ∀ after, p.filled vars = q.filled vars ++ after →
    ∃ found, Says vars (comparison p .startsWith q) found ∧
      (found = true ↔ ¬ SigmaShifts [] (q.filled vars) after)
  /-- An end is found exactly if none of its sigmas shifts. -/
  ended : ∀ before, p.filled vars = before ++ q.filled vars →
    ∃ found, Says vars (comparison p .endsWith q) found ∧
      (found = true ↔ ¬ SigmaShifts before (q.filled vars) [])
  /-- No sigma shifts but the first or the last letter of the part. -/
  at_edge : ∀ before after, SigmaShifts before (q.filled vars) after →
    ∃ front back, q.filled vars = front ++ '\u03A3' :: back ∧ (caseIgnores front ∨ caseIgnores back)

/-- **What stands in a text is found there, but for a final sigma**: for any two paths and whatever
texts they lead to, a condition that looks for the one text in the other finds a part, a start or an
end of it, whatever its letters are, unless a capital sigma of the part ends a word in the part alone
and not in the text, or the other way round. -/
theorem partsFound (vars : Variables) (p q : BracedPath) : PartsFound vars p q where
  contained before after hparts hshifts := by
    have hfound := isPart_lowercase hshifts
    rw [← hparts] at hfound
    constructor
    · exact says_comparison rfl (congrArg Except.ok hfound)
    · exact says_comparison rfl (congrArg (fun found => Except.ok (!found)) hfound)
  started after hparts := by
    refine ⟨_, says_comparison rfl rfl, ?_⟩
    rw [hparts]
    exact isPrefixOf_lowercase
  ended before hparts := by
    refine ⟨_, says_comparison rfl rfl, ?_⟩
    rw [hparts]
    exact isSuffixOf_lowercase
  at_edge before after hshifts := by
    obtain ⟨front, back, hpart, ⟨hback, -⟩ | ⟨hfront, -⟩⟩ := sigmaShifts_iff.1 hshifts
    · exact ⟨front, back, hpart, .inr hback⟩
    · exact ⟨front, back, hpart, .inl hfront⟩

/-- The path of a name. -/
def hero : BracedPath := ⟨"name".toList, rfl⟩

/-- The path of what is looked for. -/
def wanted : BracedPath := ⟨"wanted".toList, rfl⟩

/-- A name, and its first four letters. -/
def odysseus : Variables :=
  KeyMap.ofList [("name", .string "ΟΔΥΣΣΕΑΣ"), ("wanted", .string "ΟΔΥΣ")]

/-- The first letters of a name are not found in it: alone they end with a final sigma. -/
theorem odysseus_missed :
    hero.filled odysseus = wanted.filled odysseus ++ "ΣΕΑΣ".toList ∧
      Says odysseus "{name} contains {wanted}" false ∧
      Says odysseus "{name} not contains {wanted}" true ∧
      Says odysseus "{name} starts with {wanted}" false := by
  refine ⟨by decide +kernel, ⟨?_, ?_⟩, ⟨?_, ?_⟩, ⟨?_, ?_⟩⟩ <;> decide +kernel

end Condition

end Runbook
