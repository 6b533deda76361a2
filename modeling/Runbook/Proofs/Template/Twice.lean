import Runbook.Proofs.Template.Layout

/-!
# Filling a template twice

Filling a template leaves no placeholder of it, but the plain braces around a value can make one of
it: with the value `b` under `a`, the text `\x7b\x7ba\x7d\x7d` is filled to `\x7bb\x7d`.

* `Template.Plain` says that no placeholder of a text turns into something with a brace;
* `Template.Reforms` says that between two plain braces the pieces of a text turn into a path, which
  is how a placeholder can come out (`Template.hasPlaceholder_fill_iff`);
* `Template.count_fill` counts the braces that are left;
* `Variables.interpolate_twice` is the result, and `Variables.interpolate_doubled` has a template
  that changes when it is filled again.
-/

namespace Runbook

namespace Template

variable {cs : List Char} {render : String → List Char}

/-- What the placeholders of a text turn into has no braces. -/
def Plain (render : String → List Char) (cs : List Char) : Prop :=
  ∀ path, Piece.path path ∈ pieces cs → '\x7b' ∉ render path ∧ '\x7d' ∉ render path

/-- Between an opening and a closing brace that stand for themselves, the pieces of a text turn into
a path. -/
def Reforms (render : String → List Char) (cs : List Char) : Prop :=
  ∃ before inside after,
    pieces cs = before ++ .literal '\x7b' :: (inside ++ .literal '\x7d' :: after) ∧
      PathText (inside.flatMap (fillPiece render))

/-- A character that no placeholder turns into stands for itself. -/
theorem exists_literal {c : Char} {parts : List Piece} {a b : List Char}
    (hvalues : ∀ path, Piece.path path ∈ parts → c ∉ render path)
    (h : parts.flatMap (fillPiece render) = a ++ c :: b) :
    ∃ before after, parts = before ++ .literal c :: after ∧
      before.flatMap (fillPiece render) = a ∧ after.flatMap (fillPiece render) = b := by
  induction parts generalizing a with
  | nil => cases a <;> cases h
  | cons part parts ih =>
    have hrest : ∀ path, Piece.path path ∈ parts → c ∉ render path :=
      fun path hpath => hvalues path (List.mem_cons_of_mem _ hpath)
    -- the character comes out of a later part
    have hlater : ∀ more, a = fillPiece render part ++ more →
        parts.flatMap (fillPiece render) = more ++ c :: b →
        ∃ before after, part :: parts = before ++ .literal c :: after ∧
          before.flatMap (fillPiece render) = a ∧ after.flatMap (fillPiece render) = b := by
      rintro more rfl hmore
      obtain ⟨before, after, rfl, hbefore, hafter⟩ := ih hrest hmore
      exact ⟨part :: before, after, rfl, by rw [List.flatMap_cons, hbefore], hafter⟩
    rw [List.flatMap_cons] at h
    rcases List.append_eq_append_iff.1 h with ⟨more, ha, hmore⟩ | ⟨more, hpart, hmore⟩
    · exact hlater more ha hmore
    · cases more with
      | nil =>
        refine hlater [] ?_ hmore.symm
        rw [hpart, List.append_nil, List.append_nil]
      | cons d more =>
        obtain ⟨rfl, hb⟩ := List.cons.inj hmore
        cases part with
        | literal e =>
          -- one character, so it is this one
          cases a with
          | nil =>
            obtain ⟨rfl, hnil⟩ := List.cons.inj hpart
            rw [← hnil] at hb
            exact ⟨[], parts, rfl, rfl, hb.symm⟩
          | cons e' a => cases a <;> cases hpart
        | path path =>
          refine absurd ?_ (hvalues path List.mem_cons_self)
          rw [show render path = a ++ c :: more from hpart]
          simp

/-- A placeholder comes out exactly where plain braces enclose what turns into a path. -/
theorem hasPlaceholder_fill_iff (h : Plain render cs) :
    hasPlaceholder (fill render cs) = true ↔ Reforms render cs := by
  constructor
  · intro hout
    obtain ⟨path, hpath, a, b, hsplit⟩ := hasPlaceholder_iff.1 hout
    rw [braced, List.append_assoc, List.cons_append, List.append_assoc,
      List.singleton_append] at hsplit
    obtain ⟨before, rest, hpieces, -, hrest⟩ :=
      exists_literal (fun path hmem => (h path hmem).1) hsplit.symm
    have hclose : ∀ path, Piece.path path ∈ rest → '\x7d' ∉ render path := by
      intro path hmem
      refine (h path ?_).2
      rw [hpieces]
      exact List.mem_append_right _ (List.mem_cons_of_mem _ hmem)
    obtain ⟨inside, after, rfl, rfl, -⟩ := exists_literal hclose hrest
    exact ⟨before, inside, after, hpieces, hpath⟩
  · rintro ⟨before, inside, after, hpieces, hpath⟩
    refine hasPlaceholder_iff.2 ⟨_, hpath, before.flatMap (fillPiece render),
      after.flatMap (fillPiece render), ?_⟩
    simp [fill, hpieces, braced, fillPiece]

/-- Of the opening braces, filling takes those of the placeholders away. -/
theorem count_fill (h : Plain render cs) :
    (fill render cs).count '\x7b' + (pieces cs).countP isPlaceholder = cs.count '\x7b' := by
  have hparts : ∀ parts : List Piece,
      (∀ path, Piece.path path ∈ parts → '\x7b' ∉ render path ∧ PathText path.toList) →
        (parts.flatMap (fillPiece render)).count '\x7b' + parts.countP isPlaceholder =
          (parts.flatMap (fillPiece written)).count '\x7b' := by
    intro parts hpaths
    induction parts with
    | nil => rfl
    | cons part parts ih =>
      have hrest := ih fun path hpath => hpaths path (List.mem_cons_of_mem _ hpath)
      rw [List.flatMap_cons, List.flatMap_cons, List.count_append, List.count_append, ← hrest,
        List.countP_cons]
      cases part with
      | literal c =>
        simp only [fillPiece, isPlaceholder, Bool.false_eq_true, if_false]
        omega
      | path path =>
        obtain ⟨hvalue, hpath⟩ := hpaths path List.mem_cons_self
        have hwritten : (written path).count '\x7b' = 1 := by
          rw [written, braced, List.count_cons_self, List.count_append,
            List.count_eq_zero.2 hpath.no_brace]
          rfl
        simp only [fillPiece, isPlaceholder, hwritten, List.count_eq_zero.2 hvalue, if_true]
        omega
  have hcount := hparts (pieces cs) fun path hpath =>
    ⟨(h path hpath).1, isPath_iff.1 (isPath_of_mem_pieces hpath)⟩
  rw [← fill, ← fill, fill_written] at hcount
  exact hcount

/-- A text with placeholders is not what it is filled to, unless braces come out. -/
theorem fill_ne_self (h : Plain render cs) (hplaceholder : hasPlaceholder cs = true) :
    fill render cs ≠ cs := by
  intro hself
  have hcount := count_fill h
  rw [hself] at hcount
  have hpositive : 0 < (pieces cs).countP isPlaceholder := by
    rw [List.countP_pos_iff]
    exact List.any_eq_true.1 hplaceholder
  omega

end Template

namespace Variables

/-- The values that a template's placeholders turn into have no braces. -/
def Plain (vars : Variables) (template : String) : Prop :=
  Template.Plain vars.rendered template.toList

/-- Between plain braces of a template, values come to stand that turn what is there into a path. -/
def Reforms (vars : Variables) (template : String) : Prop :=
  Template.Reforms vars.rendered template.toList

/-- **Filling twice**: where no value has a brace, a template stays as it is when it is filled a
second time, unless plain braces of it come to enclose a path.  In that case the second time changes
it, as long as the values of the placeholders that came out have no braces either. -/
theorem interpolate_twice (vars : Variables) (template : String) (h : vars.Plain template) :
    (¬ vars.Reforms template →
        vars.interpolate (vars.interpolate template) = vars.interpolate template) ∧
      (vars.Reforms template → vars.Plain (vars.interpolate template) →
        vars.interpolate (vars.interpolate template) ≠ vars.interpolate template) := by
  have hout : ∀ render : String → List Char,
      (String.ofList (Template.fill render template.toList)).toList =
        Template.fill render template.toList := fun _ => String.toList_ofList
  constructor
  · intro hsealed
    have hbare : Template.hasPlaceholder (Template.fill vars.rendered template.toList) = false :=
      Bool.eq_false_iff.2 fun htrue => hsealed ((Template.hasPlaceholder_fill_iff h).1 htrue)
    rw [interpolate, interpolate, hout, Template.fill_of_no_placeholder _ hbare]
  · intro hreforms hagain hsame
    rw [Plain, interpolate, hout] at hagain
    rw [interpolate, interpolate, hout, String.ofList_inj] at hsame
    exact Template.fill_ne_self hagain ((Template.hasPlaceholder_fill_iff h).2 hreforms) hsame

/-- One value, a letter. -/
def lettered : Variables := .ofList [("a", .string "b")]

theorem pieces_mapped :
    Template.pieces "\x7bk: \x7ba\x7d\x7d".toList =
      [.literal '\x7b', .literal 'k', .literal ':', .literal ' ', .path "a", .literal '\x7d'] := by
  have hopen : Template.placeholder? "k: \x7ba\x7d\x7d".toList = none := by decide
  have hfound : Template.placeholder? "a\x7d\x7d".toList = some ("a", ['\x7d']) := by decide
  have hclose : Template.pieces ['\x7d'] = [.literal '\x7d'] := by
    rw [Template.pieces_literal (by decide), Template.pieces]
  refine (Template.pieces_open hopen).trans (congrArg _ ?_)
  refine (Template.pieces_literal (by decide) _).trans (congrArg _ ?_)
  refine (Template.pieces_literal (by decide) _).trans (congrArg _ ?_)
  refine (Template.pieces_literal (by decide) _).trans (congrArg _ ?_)
  exact (Template.pieces_placeholder hfound).trans (congrArg _ hclose)

theorem interpolate_twice_mapped :
    lettered.Plain "\x7bk: \x7ba\x7d\x7d" ∧ ¬ lettered.Reforms "\x7bk: \x7ba\x7d\x7d" ∧
      lettered.interpolate (lettered.interpolate "\x7bk: \x7ba\x7d\x7d") =
        lettered.interpolate "\x7bk: \x7ba\x7d\x7d" := by
  have hplain : lettered.Plain "\x7bk: \x7ba\x7d\x7d" := by
    intro path hpath
    rw [pieces_mapped] at hpath
    obtain rfl : path = "a" := by simpa using hpath
    decide
  have hsealed : ¬ lettered.Reforms "\x7bk: \x7ba\x7d\x7d" := by
    rw [Reforms, ← Template.hasPlaceholder_fill_iff hplain, Template.fill, pieces_mapped]
    have hopen : Template.placeholder? "k: b\x7d".toList = none := by decide
    have hrest : Template.hasPlaceholder "k: b\x7d".toList = false :=
      Template.bare_iff.1 (Template.bare_of_no_brace (by decide))
    have hout : Template.hasPlaceholder "\x7bk: b\x7d".toList = false :=
      (congrArg (List.any · _) (Template.pieces_open hopen)).trans hrest
    exact Bool.eq_false_iff.1 hout
  exact ⟨hplain, hsealed, (interpolate_twice lettered _ hplain).1 hsealed⟩

theorem pieces_doubled :
    Template.pieces "\x7b\x7ba\x7d\x7d".toList = [.literal '\x7b', .path "a", .literal '\x7d'] := by
  have hopen : Template.placeholder? "\x7ba\x7d\x7d".toList = none := by decide
  have hfound : Template.placeholder? "a\x7d\x7d".toList = some ("a", ['\x7d']) := by decide
  have hclose : Template.pieces ['\x7d'] = [.literal '\x7d'] := by
    rw [Template.pieces_literal (by decide), Template.pieces]
  refine (Template.pieces_open hopen).trans (congrArg _ ?_)
  exact (Template.pieces_placeholder hfound).trans (congrArg _ hclose)

/-- A placeholder in plain braces is filled to another placeholder. -/
theorem interpolate_doubled :
    lettered.Plain "\x7b\x7ba\x7d\x7d" ∧
      lettered.interpolate (lettered.interpolate "\x7b\x7ba\x7d\x7d") ≠
        lettered.interpolate "\x7b\x7ba\x7d\x7d" := by
  have honce : lettered.interpolate "\x7b\x7ba\x7d\x7d" = "\x7bb\x7d" := by
    rw [interpolate, Template.fill, pieces_doubled]
    decide +kernel
  have hagain : lettered.interpolate "\x7bb\x7d" = "" := by
    have hfill := @Template.fill_braced "b".toList lettered.rendered (by decide)
    rw [interpolate]
    exact congrArg String.ofList hfill
  refine ⟨fun path hpath => ?_, ?_⟩
  · rw [pieces_doubled] at hpath
    obtain rfl : path = "a" := by simpa using hpath
    decide
  · rw [honce, hagain]
    decide

end Variables

end Runbook
