import Mathlib.Data.List.Forall2
import Runbook.Shell.Expansion
import Runbook.Shell.Quote
import Runbook.Shell.Reader

/-!
# Quoted texts are read back

Whatever a text holds, the reader of shell scripts takes its quoted form for one word, and the word
spells the text.  A word that consists of characters is what it says: no parameter is put into it,
it is not split, and it is no pattern for paths, as long as quotes protect the characters that need
them.

* `Spells` says that a word is spelled out, and what its text is; `Spells.expands` says that it
  turns into its text, in every state of the shell;
* `readWord_quoteChars` reads one quoted text, plain or between quotes that are closed and opened
  again around each quote of its own;
* `redirectOperator?_quoteChars` says that it begins no redirection;
* `readSimple_line` reads quoted texts with blanks between them, up to the end of the line.
-/

namespace Runbook.Shell

/-! ## Spelled-out words -/

/-- Whether a part is a character, or quotes with nothing between them. -/
def Part.isLiteral : Part → Bool
  | .char .. | .empty => true
  | _ => false

/-- The word is spelled out, and the text is what it spells. -/
structure Spells (word : Word) (text : List Char) : Prop where
  /-- Nothing is put in. -/
  literal : ∀ part ∈ word, part.isLiteral
  /-- Quotes protect every character but those that need none. -/
  plain : ∀ c, Part.char c false ∈ word → isPlain c
  /-- The characters. -/
  text_eq : (unquote word).1 = text
  /-- There is a word even if it has no characters. -/
  ne_nil : word ≠ []

theorem ne_of_isPlain {c d : Char} (hc : isPlain c) (hd : isPlain d = false) : c ≠ d := by
  rintro rfl
  rw [hc] at hd
  cases hd

theorem unquote_append (a b : Word) : (unquote (a ++ b)).1 = (unquote a).1 ++ (unquote b).1 := by
  induction a with
  | nil => rfl
  | cons part a ih => cases part <;> simp [unquote, ih]

theorem unquote_map_char (text : List Char) (quoted : Bool) :
    (unquote (text.map (.char · quoted))).1 = text := by
  induction text with
  | nil => rfl
  | cons c text ih => simp [unquote, ih]

namespace Spells

variable {a b word : Word} {s t text : List Char}

theorem append (ha : Spells a s) (hb : Spells b t) : Spells (a ++ b) (s ++ t) where
  literal part hpart := (List.mem_append.mp hpart).elim (ha.literal part) (hb.literal part)
  plain c hc := (List.mem_append.mp hc).elim (ha.plain c) (hb.plain c)
  text_eq := by rw [unquote_append, ha.text_eq, hb.text_eq]
  ne_nil h := ha.ne_nil (List.append_eq_nil_iff.mp h).1

/-- Characters that need no quotes. -/
theorem bare (hne : text ≠ []) (hplain : ∀ c ∈ text, isPlain c) :
    Spells (text.map (.char · false)) text where
  literal := by simp [Part.isLiteral]
  plain := by simpa using hplain
  text_eq := unquote_map_char text false
  ne_nil := by simpa using hne

/-- Characters in quotes, perhaps none. -/
theorem quoted (text : List Char) : Spells (quotedParts text) text := by
  cases text with
  | nil =>
    exact ⟨by simp [quotedParts, Part.isLiteral], by simp [quotedParts], rfl,
      by simp [quotedParts]⟩
  | cons c text =>
    exact ⟨by simp [quotedParts, Part.isLiteral], by simp [quotedParts],
      unquote_map_char (c :: text) true, by simp [quotedParts]⟩

end Spells

/-! ## Their expansion -/

/-- What a literal part becomes. -/
def Part.piece : Part → Piece
  | .char c quoted => .cell ⟨c, quoted⟩ false
  | _ => .nothing

/-- The characters of a spelled-out word, with what protects them. -/
def cells (word : Word) : List Cell := piecePattern (word.map Part.piece)

theorem mem_cells {word : Word} {cell : Cell} (h : cell ∈ cells word) :
    Part.char cell.char cell.isProtected ∈ word := by
  obtain ⟨piece, hpiece, hcell⟩ := List.mem_filterMap.mp h
  obtain ⟨part, hpart, rfl⟩ := List.mem_map.mp hpiece
  cases part with
  | char c quoted =>
    obtain rfl : ⟨c, quoted⟩ = cell := Option.some.inj hcell
    exact hpart
  | empty | param | output | sum => cases hcell

theorem expandParts_of_literal (putIn : PutIn) {word : Word}
    (h : ∀ part ∈ word, part.isLiteral) :
    expandParts putIn word = pure (word.map Part.piece) := by
  induction word with
  | nil => rw [expandParts, List.map_nil]
  | cons part word ih =>
    have hpart : expandPart putIn part = pure [part.piece] := by
      cases part with
      | char c quoted => rw [expandPart, Part.piece]
      | empty => simp only [expandPart, Part.piece]
      | param | output | sum => cases h _ List.mem_cons_self
    rw [expandParts, hpart, ih fun p hp => h p (List.mem_cons_of_mem _ hp), pure_bind, pure_bind]
    rfl

/-- Nothing in a spelled-out word separates: it goes on growing one word. -/
theorem grow_of_literal (separators : List Char) (word : Word) (done : List (List Cell))
    (grown : List Cell) :
    (word.map Part.piece).foldl (Growing.add separators) ⟨done, grown, true, false⟩ =
      ⟨done, (cells word).reverse ++ grown, true, false⟩ := by
  induction word generalizing grown with
  | nil => rfl
  | cons part word ih =>
    cases part <;>
      simp [Part.piece, Growing.add, ih, cells, piecePattern]

theorem splitFields_of_literal (separators : List Char) {word : Word} (hne : word ≠ []) :
    splitFields separators (word.map Part.piece) = [cells word] := by
  obtain ⟨part, word, rfl⟩ := List.exists_cons_of_ne_nil hne
  have first : Growing.add separators Growing.start part.piece =
      ⟨[], (cells [part]).reverse, true, false⟩ := by
    cases part <;> rfl
  have whole : (cells (part :: word)) = cells [part] ++ cells word := by
    simp [cells, piecePattern, List.filterMap_cons]
    cases part <;> rfl
  rw [splitFields, List.map_cons, List.foldl_cons, first, grow_of_literal, whole]
  simp [Growing.close]

theorem cellText_cells {word : Word} (h : ∀ part ∈ word, part.isLiteral) :
    cellText (cells word) = (unquote word).1 := by
  induction word with
  | nil => rfl
  | cons part word ih =>
    have ih := ih fun p hp => h p (List.mem_cons_of_mem _ hp)
    cases part with
    | char c quoted => simpa [cells, piecePattern, cellText, Part.piece, unquote] using ih
    | empty => simpa [cells, piecePattern, cellText, Part.piece, unquote] using ih
    | param | output | sum => cases h _ List.mem_cons_self

namespace Spells

variable {word : Word} {text : List Char}

/-- No character of a spelled-out word makes it a pattern. -/
theorem hasWildcard_eq_false (h : Spells word text) : hasWildcard (cells word) = false := by
  rw [hasWildcard, List.any_eq_false]
  rintro ⟨c, isProtected⟩ hcell
  cases isProtected with
  | true => simp [Cell.isSpecial]
  | false =>
    have hc := h.plain c (mem_cells hcell)
    simp [Cell.isSpecial, ne_of_isPlain hc (d := '*') rfl, ne_of_isPlain hc (d := '?') rfl,
      ne_of_isPlain hc (d := '[') rfl]

/-- A spelled-out word turns into its text, whatever is put in elsewhere and in every state. -/
theorem expands (h : Spells word text) (putIn : PutIn) (s : ShellState) :
    expandWord putIn word s = (.ok [String.ofList text], s) := by
  have split := splitFields_of_literal s.separators h.ne_nil
  have read : cellText (cells word) = text := by rw [cellText_cells h.literal, h.text_eq]
  have path : fieldTexts s.machine.files (cells word) = [String.ofList text] := by
    rw [fieldTexts, h.hasWildcard_eq_false, read]
    rfl
  rw [expandWord, expandParts_of_literal putIn h.literal, pure_bind]
  show (ite _ _ _ : Expand (List String)) s = _
  cases hp : s.plainPatterns with
  | true =>
    rw [if_pos rfl, split, List.map_singleton, read]
    rfl
  | false =>
    rw [if_neg Bool.false_ne_true, split, List.flatMap_singleton, path]
    rfl

end Spells

/-! ## Reading a word -/

/-- Whether a text ends or goes on with a blank. -/
def AtGap (rest : List Char) : Prop := ∀ c ∈ rest.head?, c = ' '

theorem AtGap.nil_or_blank {rest : List Char} (h : AtGap rest) :
    rest = [] ∨ ∃ more, rest = ' ' :: more := by
  cases rest with
  | nil => exact .inl rfl
  | cons c more => exact .inr ⟨more, by rw [h c rfl]⟩

theorem endsWord_eq_false_of_isPlain {c : Char} (hc : isPlain c) : endsWord c = false := by
  have apart : (" \t\n;&|<>()".toList.all fun d => !isPlain d) = true := by decide
  rw [endsWord, List.contains_eq_any_beq, List.any_eq_false]
  intro d hd
  have needs : isPlain d = false := by simpa using List.all_eq_true.mp apart d hd
  simpa using ne_of_isPlain hc needs

section Parts

variable (nested : Nested) {fuel : Nat} {rest : List Char}

theorem readParts_gap (h : AtGap rest) :
    readParts nested (fuel + 1) .bare rest = .ok ([], rest) := by
  obtain rfl | ⟨more, rfl⟩ := h.nil_or_blank <;> rfl

theorem readParts_plain {c : Char} (hc : isPlain c) (cs : List Char) :
    readParts nested (fuel + 1) .bare (c :: cs) = do
      let (parts, left) ← readParts nested fuel .bare cs
      return (.char c false :: parts, left) := by
  have apart {d : Char} (hd : isPlain d = false) : c ≠ d := ne_of_isPlain hc hd
  rw [readParts.eq_def]
  simp only [if_neg (apart (d := backslash) rfl), if_neg (apart (d := backquote) rfl),
    if_neg (apart (d := '$') rfl), decide_eq_false (apart (d := '\'') rfl),
    decide_eq_false (apart (d := '"') rfl), Bool.false_and, Place.next?,
    endsWord_eq_false_of_isPlain hc]
  rfl

/-- Characters that need no quotes are read as they are. -/
theorem readParts_bare {cs : List Char} (hcs : ∀ c ∈ cs, isPlain c) (hrest : AtGap rest)
    (hfuel : cs.length < fuel) :
    readParts nested fuel .bare (cs ++ rest) = .ok (cs.map (.char · false), rest) := by
  induction cs generalizing fuel with
  | nil =>
    obtain ⟨fuel, rfl⟩ := Nat.exists_eq_add_one.mpr (Nat.zero_lt_of_lt hfuel)
    exact readParts_gap nested hrest
  | cons c cs ih =>
    obtain ⟨fuel, rfl⟩ := Nat.exists_eq_add_one.mpr (Nat.zero_lt_of_lt hfuel)
    have more := ih (fun d hd => hcs d (List.mem_cons_of_mem _ hd)) (Nat.lt_of_succ_lt_succ hfuel)
    rw [List.cons_append, readParts_plain nested (hcs c List.mem_cons_self), more]
    rfl

theorem readParts_quoted {text : List Char} (htext : '\'' ∉ text) (cs : List Char) :
    readParts nested (fuel + 1) .bare ('\'' :: (text ++ '\'' :: cs)) = do
      let (parts, left) ← readParts nested fuel .bare cs
      return (quotedParts text ++ parts, left) := by
  have inside : ∀ c ∈ text, (c != '\'') = true := by
    rintro c hc
    rw [bne_iff_ne]
    rintro rfl
    exact htext hc
  rw [readParts.eq_def]
  simp only [List.takeWhile_append_of_pos inside, List.dropWhile_append_of_pos inside]
  simp [backslash, Place.isQuoted]

theorem readParts_escaped (cs : List Char) :
    readParts nested (fuel + 1) .bare ('\\' :: '\'' :: cs) = do
      let (parts, left) ← readParts nested fuel .bare cs
      return (.char '\'' true :: parts, left) :=
  rfl

theorem flatMap_quoteChar {text : List Char} (h : '\'' ∉ text) :
    text.flatMap quoteChar = text := by
  induction text with
  | nil => rfl
  | cons c text ih =>
    rw [List.mem_cons, not_or] at h
    rw [List.flatMap_cons, ih h.2, quoteChar, if_neg (Ne.symm h.1)]
    rfl

end Parts

/-- A text between quotes, which its own quotes interrupt, is read back piece by piece. -/
theorem readParts_spliced (text : List Char) :
    ∃ word, Spells word text ∧ ∀ nested fuel rest, AtGap rest → 2 * text.length + 2 ≤ fuel →
      readParts nested fuel .bare ('\'' :: (text.flatMap quoteChar ++ '\'' :: rest)) =
        .ok (word, rest) := by
  induction h : text.length using Nat.strongRecOn generalizing text with
  | ind n ih =>
    by_cases hquote : '\'' ∈ text
    · -- The quotes are closed before the first quote of the text and opened again after it.
      obtain ⟨front, back, rfl, hfront⟩ := List.eq_append_cons_of_mem hquote
      rw [List.length_append, List.length_cons] at h
      obtain ⟨word, spells, read⟩ := ih back.length (by omega) back rfl
      refine ⟨quotedParts front ++ (.char '\'' true :: word),
        (Spells.quoted front).append ((Spells.quoted ['\'']).append spells), ?_⟩
      intro nested fuel rest hrest hfuel
      have spliced : (front ++ '\'' :: back).flatMap quoteChar ++ '\'' :: rest =
          front ++ '\'' :: '\\' :: '\'' :: '\'' ::
            (back.flatMap quoteChar ++ '\'' :: rest) := by
        simp [flatMap_quoteChar hfront, quoteChar]
      obtain ⟨fuel, rfl⟩ := Nat.exists_eq_add_of_le' (show 2 ≤ fuel by omega)
      rw [spliced, readParts_quoted nested hfront, readParts_escaped,
        read nested fuel rest hrest (by omega)]
      rfl
    · refine ⟨quotedParts text ++ [], by simpa using Spells.quoted text, ?_⟩
      intro nested fuel rest hrest hfuel
      obtain ⟨fuel, rfl⟩ := Nat.exists_eq_add_of_le' (show 2 ≤ fuel by omega)
      rw [flatMap_quoteChar hquote, readParts_quoted nested hquote, readParts_gap nested hrest]
      rfl

/-- A text stays as it is, or is put between quotes. -/
theorem quoteChars_cases (text : List Char) :
    (quoteChars text = text ∧ text ≠ [] ∧ ∀ c ∈ text, isPlain c) ∨
      quoteChars text = '\'' :: (text.flatMap quoteChar ++ ['\'']) := by
  rw [quoteChars]
  split
  · next h =>
    obtain ⟨hne, hplain⟩ := (Bool.and_eq_true ..).mp h
    exact .inl ⟨rfl, by simpa using hne, List.all_eq_true.mp hplain⟩
  · exact .inr rfl

theorem length_le_flatMap_quoteChar (text : List Char) :
    text.length ≤ (text.flatMap quoteChar).length := by
  induction text with
  | nil => exact Nat.le_refl 0
  | cons c text ih =>
    have one : 1 ≤ (quoteChar c).length := by
      rw [quoteChar]
      split <;> simp
    rw [List.flatMap_cons, List.length_append, List.length_cons]
    omega

theorem openTilde_eq {word : Word} {text : List Char} (h : Spells word text) :
    openTilde word = word := by
  rw [openTilde.eq_def]
  split
  · exact absurd (h.plain '~' List.mem_cons_self) (by decide)
  · exact absurd (h.plain '~' List.mem_cons_self) (by decide)
  · rfl

/-- A quoted text is read back as one word. -/
theorem readWord_quoteChars (text : List Char) :
    ∃ word, Spells word text ∧ ∀ nested rest, AtGap rest →
      readWord nested (quoteChars text ++ rest) = .ok (word, rest) := by
  suffices h : ∃ word, Spells word text ∧ ∀ nested rest, AtGap rest →
      readParts nested (2 * (quoteChars text ++ rest).length + 2) .bare
        (quoteChars text ++ rest) = .ok (word, rest) by
    obtain ⟨word, spells, read⟩ := h
    refine ⟨word, spells, fun nested rest hrest => ?_⟩
    rw [readWord, read nested rest hrest]
    show Except.ok (openTilde word, rest) = _
    rw [openTilde_eq spells]
  obtain ⟨same, hne, hplain⟩ | spliced := quoteChars_cases text
  · refine ⟨_, Spells.bare hne hplain, fun nested rest hrest => ?_⟩
    rw [same]
    exact readParts_bare nested hplain hrest (by rw [List.length_append]; omega)
  · obtain ⟨word, spells, read⟩ := readParts_spliced text
    refine ⟨word, spells, fun nested rest hrest => ?_⟩
    have long := length_le_flatMap_quoteChar text
    rw [spliced, List.cons_append, List.append_assoc, List.singleton_append]
    exact read nested _ rest hrest (by
      rw [List.length_cons, List.length_append]
      omega)

/-! ## Reading a line -/

/-- What a quoted text begins with. -/
theorem quoteChars_starts (text : List Char) :
    ∃ c more, quoteChars text = c :: more ∧ (isPlain c ∨ c = '\'') := by
  obtain ⟨same, hne, hplain⟩ | spliced := quoteChars_cases text
  · obtain ⟨c, more, rfl⟩ := List.exists_cons_of_ne_nil hne
    exact ⟨c, more, same, .inl (hplain c List.mem_cons_self)⟩
  · exact ⟨_, _, spliced, .inr rfl⟩

theorem ne_of_starts {c d : Char} (hc : isPlain c ∨ c = '\'') (hd : isPlain d = false)
    (hquote : '\'' ≠ d) : c ≠ d := by
  obtain hc | rfl := hc
  · exact ne_of_isPlain hc hd
  · exact hquote

theorem skipBlanks_quoteChars (text rest : List Char) :
    skipBlanks (quoteChars text ++ rest) = quoteChars text ++ rest := by
  obtain ⟨c, more, same, hc⟩ := quoteChars_starts text
  rw [same, List.cons_append, skipBlanks.eq_def]
  split
  iterate 4
    next heq => exact absurd (List.cons.inj heq).1 (ne_of_starts hc rfl (by decide))
  rfl

theorem redirectKind?_eq_none {cs : List Char} (h : ∀ c ∈ cs.head?, c ≠ '<' ∧ c ≠ '>') :
    redirectKind? cs = none := by
  rw [redirectKind?.eq_def]
  split <;> first
    | exact absurd rfl (h _ rfl).1
    | exact absurd rfl (h _ rfl).2
    | rfl

/-- A quoted text is no redirection, even if it begins with a digit. -/
theorem redirectOperator?_quoteChars (text : List Char) {rest : List Char} (hrest : AtGap rest) :
    redirectOperator? (quoteChars text ++ rest) = none := by
  have apart {c : Char} (hc : isPlain c) : c ≠ '<' ∧ c ≠ '>' :=
    ⟨ne_of_isPlain hc rfl, ne_of_isPlain hc rfl⟩
  obtain ⟨same, hne, hplain⟩ | spliced := quoteChars_cases text
  · obtain ⟨c, more, rfl⟩ := List.exists_cons_of_ne_nil hne
    have here : redirectKind? (c :: (more ++ rest)) = none :=
      redirectKind?_eq_none (by simpa using apart (hplain c List.mem_cons_self))
    have next : redirectKind? (more ++ rest) = none := by
      apply redirectKind?_eq_none
      intro d hd
      rw [List.head?_append] at hd
      cases more with
      | nil =>
        rw [hrest d hd]
        decide
      | cons e more =>
        obtain rfl : e = d := by simpa using hd
        exact apart (hplain e (by simp))
    rw [same, List.cons_append, redirectOperator?, here, next]
    split <;> rfl
  · rw [spliced]
    rfl

/-- The words of a line after its first one, each with a blank before it. -/
def followers (texts : List String) : List Char :=
  texts.flatMap fun text => ' ' :: quoteChars text.toList

theorem atGap_followers (texts : List String) : AtGap (followers texts) := by
  cases texts with
  | nil => simp [AtGap, followers]
  | cons text texts => simp [AtGap, followers]

theorem line_cons (first : String) (texts : List String) :
    (" ".intercalate ((first :: texts).map quote)).toList =
      quoteChars first.toList ++ followers texts := by
  induction texts generalizing first with
  | nil => simp [quote, followers]
  | cons text texts ih =>
    rw [List.map_cons, List.map_cons, String.intercalate_cons_cons, String.toList_append,
      String.toList_append, ← List.map_cons, ih]
    simp [quote, followers]

/-- A simple command takes a quoted text in as one word, and goes on after it. -/
theorem readSimple_quoteChars (text : List Char) :
    ∃ word, Spells word text ∧ ∀ nested fuel before rest, AtGap rest →
      readSimple nested (fuel + 1) before (quoteChars text ++ rest) =
        readSimple nested fuel (before.add word) rest := by
  obtain ⟨word, spells, read⟩ := readWord_quoteChars text
  refine ⟨word, spells, fun nested fuel before rest hrest => ?_⟩
  have plain : readRedirect? nested (quoteChars text ++ rest) = .ok none := by
    rw [readRedirect?, redirectOperator?_quoteChars text hrest]
  obtain ⟨c, more, same, hc⟩ := quoteChars_starts text
  have goes : endsWord c = false :=
    hc.elim endsWord_eq_false_of_isPlain fun hquote => by rw [hquote]; decide
  have here := read nested rest hrest
  rw [readSimple, skipBlanks_quoteChars, plain]
  rw [same, List.cons_append] at here ⊢
  show (if endsWord c then _ else _) = _
  rw [goes, here]
  rfl

theorem length_le_followers (texts : List String) : texts.length ≤ (followers texts).length := by
  induction texts with
  | nil => exact Nat.le_refl 0
  | cons text texts ih =>
    rw [followers, List.flatMap_cons, List.length_append, List.length_cons, List.length_cons,
      ← followers]
    omega

theorem readSimple_followers (texts : List String) :
    ∃ tokens, List.Forall₂ (fun token text => Spells token text.toList) tokens texts ∧
      ∀ nested fuel before, texts.length < fuel →
        readSimple nested fuel before (followers texts) =
          .ok (tokens.foldl Simple.add before, []) := by
  induction texts with
  | nil =>
    refine ⟨[], .nil, fun nested fuel before hfuel => ?_⟩
    obtain ⟨fuel, rfl⟩ := Nat.exists_eq_add_one.mpr (Nat.zero_lt_of_lt hfuel)
    rfl
  | cons text texts ih =>
    obtain ⟨token, spells, first⟩ := readSimple_quoteChars text.toList
    obtain ⟨tokens, spelled, others⟩ := ih
    refine ⟨token :: tokens, .cons spells spelled, fun nested fuel before hfuel => ?_⟩
    obtain ⟨fuel, rfl⟩ := Nat.exists_eq_add_one.mpr (Nat.zero_lt_of_lt hfuel)
    calc readSimple nested (fuel + 1) before (followers (text :: texts))
        = readSimple nested (fuel + 1) before (quoteChars text.toList ++ followers texts) := rfl
      _ = readSimple nested fuel (before.add token) (followers texts) :=
        first nested fuel before _ (atGap_followers texts)
      _ = .ok ((token :: tokens).foldl Simple.add before, []) :=
        others nested fuel _ (Nat.lt_of_succ_lt_succ hfuel)

/-- Quoted texts with blanks between them are read up to the end, each as one word. -/
theorem readSimple_line (texts : List String) :
    ∃ tokens, List.Forall₂ (fun token text => Spells token text.toList) tokens texts ∧
      ∀ nested before,
        readSimple nested ((" ".intercalate (texts.map quote)).toList.length + 1) before
          (" ".intercalate (texts.map quote)).toList = .ok (tokens.foldl Simple.add before, []) := by
  cases texts with
  | nil => exact ⟨[], .nil, fun _ _ => rfl⟩
  | cons first texts =>
    obtain ⟨token, spells, start⟩ := readSimple_quoteChars first.toList
    obtain ⟨tokens, spelled, others⟩ := readSimple_followers texts
    refine ⟨token :: tokens, .cons spells spelled, fun nested before => ?_⟩
    have long : texts.length < (quoteChars first.toList ++ followers texts).length := by
      obtain ⟨c, more, same, -⟩ := quoteChars_starts first.toList
      have := length_le_followers texts
      rw [same, List.length_append, List.length_cons]
      omega
    rw [line_cons, start nested _ before _ (atGap_followers texts), others nested _ _ long]
    rfl

end Runbook.Shell
