import Runbook.Proofs.Template.Pieces
import Runbook.Variables

/-!
# Layouts of templates

A template is plain texts with placeholders between them, and filling it is one pass over these.

* `Template.PathText` spells out what a path is, and `Template.isPath_iff` says that the test for
  paths finds exactly those;
* `Template.Straddles` says that a placeholder begins in one text and ends in the next; where none
  does, the two texts have the pieces of each (`Template.pieces_append`);
* `Template.Layout` is a way to cut a text at placeholders, `Template.Layout.Divides` says that no
  placeholder is left in its plain texts, and `Template.Layout.Leftmost` that each of its
  placeholders is the first of what remains;
* `Variables.interpolate_single_pass` is the result: every template has one such layout, and is
  filled by filling that.
-/

namespace Runbook

namespace Template

variable {cs : List Char}

/-! ## Paths -/

/-- A name, which begins with a letter or an underscore, and then any number of segments that are
not empty, each after a dot. -/
inductive PathText : List Char → Prop where
  /-- The name and the segments, put together. -/
  | intro {first : Char} {name : List Char} {segments : List (List Char)}
    (hfirst : startsName first = true) (hname : ∀ c ∈ name, inSegment c = true)
    (hsegments : ∀ segment ∈ segments, segment ≠ [] ∧ ∀ c ∈ segment, inSegment c = true) :
    PathText (first :: (name ++ segments.flatMap ('.' :: ·)))

/-- What is split at dots, put together again. -/
theorem exists_segments (cs : List Char) :
    ∃ head rest, segments cs = head :: rest ∧ cs = head ++ rest.flatMap ('.' :: ·) := by
  induction cs with
  | nil => exact ⟨[], [], rfl, rfl⟩
  | cons c tail ih =>
    obtain ⟨head, rest, hsplit, hjoin⟩ := ih
    rw [segments, hsplit]
    by_cases hc : c = '.'
    · refine ⟨[], head :: rest, if_pos hc, ?_⟩
      rw [hc, hjoin]
      rfl
    · refine ⟨c :: head, rest, if_neg hc, ?_⟩
      rw [hjoin]
      rfl

theorem segments_append_dot {head : List Char} (h : '.' ∉ head) (tail : List Char) :
    segments (head ++ '.' :: tail) = head :: segments tail := by
  induction head with
  | nil => exact if_pos rfl
  | cons c head ih =>
    rw [List.mem_cons, not_or] at h
    rw [List.cons_append, segments, if_neg (Ne.symm h.1), ih h.2]

/-- Texts without dots are the segments of what they are joined to. -/
theorem segments_join {head : List Char} {rest : List (List Char)} (hhead : '.' ∉ head)
    (hrest : ∀ segment ∈ rest, '.' ∉ segment) :
    segments (head ++ rest.flatMap ('.' :: ·)) = head :: rest := by
  induction rest generalizing head with
  | nil =>
    rw [List.flatMap_nil, List.append_nil]
    exact segments_of_no_dot hhead
  | cons segment rest ih =>
    rw [List.flatMap_cons, List.cons_append, segments_append_dot hhead,
      ih (hrest segment List.mem_cons_self) fun s hs => hrest s (List.mem_cons_of_mem _ hs)]

theorem dot_notMem_of_inSegment {segment : List Char} (h : ∀ c ∈ segment, inSegment c = true) :
    '.' ∉ segment := fun hdot => absurd (h _ hdot) (by decide)

/-- The test for paths finds the paths. -/
theorem isPath_iff : isPath cs = true ↔ PathText cs := by
  constructor
  · intro h
    obtain ⟨head, rest, hsplit, hjoin⟩ := exists_segments cs
    unfold isPath at h
    rw [hsplit, Bool.and_eq_true, List.all_cons, Bool.and_eq_true] at h
    obtain ⟨hfirst, hhead, hrest⟩ := h
    simp only [Bool.and_eq_true, Bool.not_eq_true', List.isEmpty_eq_false_iff,
      List.all_eq_true] at hhead hrest
    cases head with
    | nil => exact absurd rfl hhead.1
    | cons first name =>
      subst hjoin
      exact .intro hfirst (fun c hc => hhead.2 c (List.mem_cons_of_mem _ hc)) hrest
  · intro h
    cases h with
    | @intro first name rest hfirst hname hsegments =>
      have hhead : inSegment first = true ∧ ∀ c ∈ name, inSegment c = true :=
        ⟨by rw [inSegment, hfirst]; rfl, hname⟩
      have hsplit := segments_join (dot_notMem_of_inSegment (List.forall_mem_cons.2 hhead))
        fun segment hs => dot_notMem_of_inSegment (hsegments segment hs).2
      rw [List.cons_append] at hsplit
      simp only [isPath, hfirst, hsplit, Bool.true_and, List.all_cons, Bool.and_eq_true,
        Bool.not_eq_true', List.isEmpty_eq_false_iff, List.all_eq_true]
      exact ⟨⟨List.cons_ne_nil _ _, hhead⟩, hsegments⟩

/-- A path has no opening braces. -/
theorem PathText.no_brace (h : PathText cs) : '\x7b' ∉ cs :=
  fun hbrace => absurd (inPath_of_isPath (isPath_iff.2 h) _ hbrace) (by decide)

/-! ## Placeholders -/

/-- A text between braces. -/
def braced (path : List Char) : List Char := '\x7b' :: (path ++ ['\x7d'])

/-- What stands after an opening brace makes it a placeholder if it is a path, a closing brace and
anything else. -/
theorem placeholder?_eq_some_iff {path : String} {after : List Char} :
    placeholder? cs = some (path, after) ↔
      PathText path.toList ∧ cs = path.toList ++ '\x7d' :: after := by
  constructor
  · intro h
    refine ⟨isPath_iff.1 (isPath_of_placeholder? h), ?_⟩
    unfold placeholder? at h
    split at h
    case h_1 rest hrest =>
      split at h
      case isTrue =>
        cases h
        rw [String.toList_ofList, ← hrest, List.takeWhile_append_dropWhile]
      case isFalse => cases h
    case h_2 => cases h
  · rintro ⟨hpath, rfl⟩
    have hfound := placeholder?_append (placeholder?_path (isPath_iff.2 hpath)) after
    rw [String.ofList_toList] at hfound
    simpa using hfound

theorem placeholder?_eq_none_iff :
    placeholder? cs = none ↔ ∀ path after, PathText path → cs ≠ path ++ '\x7d' :: after := by
  constructor
  · intro hnone path after hpath heq
    have hfound : placeholder? cs = some (String.ofList path, after) :=
      placeholder?_eq_some_iff.2 (by rw [String.toList_ofList]; exact ⟨hpath, heq⟩)
    rw [hnone] at hfound
    cases hfound
  · intro h
    refine Option.eq_none_iff_forall_not_mem.2 ?_
    rintro ⟨path, after⟩ hfound
    obtain ⟨hpath, heq⟩ := placeholder?_eq_some_iff.1 hfound
    exact h _ _ hpath heq

/-- A placeholder begins in the first text and ends in the second. -/
def Straddles (a b : List Char) : Prop :=
  ∃ path front back, PathText path ∧ braced path = front ++ back ∧ front ≠ [] ∧ back ≠ [] ∧
    front <:+ a ∧ back <+: b

theorem Straddles.of_suffix {a a' b : List Char} (h : Straddles a' b) (hsuffix : a' <:+ a) :
    Straddles a b := by
  obtain ⟨path, front, back, hpath, hsplit, hfront, hback, hends, hbegins⟩ := h
  exact ⟨path, front, back, hpath, hsplit, hfront, hback, hends.trans hsuffix, hbegins⟩

/-- No placeholder goes on with an opening brace. -/
theorem not_straddles_open (a b : List Char) : ¬ Straddles a ('\x7b' :: b) := by
  rintro ⟨path, front, back, hpath, hsplit, hfront, hback, -, hbegins⟩
  obtain ⟨c, front, rfl⟩ := List.exists_cons_of_ne_nil hfront
  obtain ⟨d, back, rfl⟩ := List.exists_cons_of_ne_nil hback
  obtain ⟨rfl, -⟩ := List.cons_prefix_cons.1 hbegins
  rw [braced, List.cons_append] at hsplit
  have hbrace : '\x7b' ∈ path ++ ['\x7d'] := by
    rw [(List.cons.inj hsplit).2]
    simp
  rcases List.mem_append.1 hbrace with hin | hin
  · exact hpath.no_brace hin
  · exact absurd (List.mem_singleton.1 hin) (by decide)

/-- Where no placeholder straddles, two texts have the pieces of each. -/
theorem pieces_append {a b : List Char} (h : ¬ Straddles a b) :
    pieces (a ++ b) = pieces a ++ pieces b := by
  induction a using pieces.induct with
  | case1 =>
    rw [pieces]
    rfl
  | case2 rest path after hfound ih =>
    have hsuffix : after <:+ '\x7b' :: rest := by
      rw [(placeholder?_eq_some_iff.1 hfound).2]
      exact ⟨'\x7b' :: (path.toList ++ ['\x7d']), by simp⟩
    rw [List.cons_append, pieces_placeholder (placeholder?_append hfound b),
      pieces_placeholder hfound, ih fun hs => h (hs.of_suffix hsuffix)]
    rfl
  | case3 rest hnone ih =>
    have hmore : placeholder? (rest ++ b) = none := by
      refine placeholder?_eq_none_iff.2 fun path after hpath hsplit => ?_
      -- the closing brace stands in the second text or already in the first
      rw [List.append_cons] at hsplit
      rcases List.append_eq_append_iff.1 hsplit with ⟨back, hfront, hb⟩ | ⟨more, hrest, -⟩
      · cases back with
        | nil =>
          rw [List.append_nil] at hfront
          exact placeholder?_eq_none_iff.1 hnone path [] hpath hfront.symm
        | cons d back =>
          refine h ⟨path, '\x7b' :: rest, d :: back, hpath, ?_, List.cons_ne_nil _ _,
            List.cons_ne_nil _ _, List.suffix_rfl, ?_⟩
          · rw [braced, hfront]
            rfl
          · rw [hb]
            exact List.prefix_append _ _
      · rw [← List.append_cons] at hrest
        exact placeholder?_eq_none_iff.1 hnone path more hpath hrest
    rw [List.cons_append, pieces_open hmore, pieces_open hnone,
      ih fun hs => h (hs.of_suffix (List.suffix_cons _ _))]
    rfl
  | case4 c rest hc ih =>
    rw [List.cons_append, pieces_literal hc, pieces_literal hc,
      ih fun hs => h (hs.of_suffix (List.suffix_cons _ _))]
    rfl

/-! ## Texts with and without placeholders -/

/-- No part of the text is a placeholder. -/
def Bare (cs : List Char) : Prop := ∀ path, PathText path → ¬ braced path <:+: cs

/-- A placeholder as it is written. -/
def written (path : String) : List Char := braced path.toList

/-- Filled with its own placeholders, a text is what it was. -/
theorem fill_written (cs : List Char) : fill written cs = cs := by
  induction cs using pieces.induct with
  | case1 =>
    rw [fill, pieces]
    rfl
  | case2 rest path after hfound ih =>
    rw [fill, pieces_placeholder hfound, List.flatMap_cons, ← fill, ih,
      (placeholder?_eq_some_iff.1 hfound).2]
    simp [fillPiece, written, braced]
  | case3 rest hnone ih =>
    rw [fill, pieces_open hnone, List.flatMap_cons, ← fill, ih]
    rfl
  | case4 c rest hc ih =>
    rw [fill, pieces_literal hc, List.flatMap_cons, ← fill, ih]
    rfl

/-- A placeholder is one wherever it stands. -/
theorem pieces_around {path : String} (hpath : PathText path.toList) (before after : List Char) :
    pieces (before ++ (written path ++ after)) = pieces before ++ .path path :: pieces after := by
  have hfound : placeholder? (path.toList ++ '\x7d' :: after) = some (path, after) :=
    placeholder?_eq_some_iff.2 ⟨hpath, rfl⟩
  have hopen : written path ++ after = '\x7b' :: (path.toList ++ '\x7d' :: after) := by
    simp [written, braced]
  rw [hopen, pieces_append (not_straddles_open _ _), pieces_placeholder hfound]

/-- A text has a placeholder exactly if a part of it is one. -/
theorem hasPlaceholder_iff :
    hasPlaceholder cs = true ↔ ∃ path, PathText path ∧ braced path <:+: cs := by
  constructor
  · intro h
    obtain ⟨piece, hmem, hpiece⟩ := List.any_eq_true.1 h
    cases piece with
    | literal c => cases hpiece
    | path path =>
      obtain ⟨before, after, hsplit⟩ := List.append_of_mem hmem
      refine ⟨path.toList, isPath_iff.1 (isPath_of_mem_pieces hmem),
        before.flatMap (fillPiece written), after.flatMap (fillPiece written), ?_⟩
      rw [← fill_written cs, fill, hsplit, List.flatMap_append, List.flatMap_cons,
        List.append_assoc]
      rfl
  · rintro ⟨path, hpath, hpart⟩
    refine hasPlaceholder_of_part hpart ?_
    rw [hasPlaceholder, braced, pieces_braced (isPath_iff.2 hpath)]
    rfl

theorem bare_iff : Bare cs ↔ hasPlaceholder cs = false := by
  rw [← Bool.not_eq_true, hasPlaceholder_iff]
  constructor
  · rintro h ⟨path, hpath, hpart⟩
    exact h path hpath hpart
  · exact fun h path hpath hpart => h ⟨path, hpath, hpart⟩

theorem pieces_of_bare (h : Bare cs) : pieces cs = cs.map .literal :=
  pieces_of_no_placeholder (bare_iff.1 h)

theorem bare_of_no_brace (h : '\x7b' ∉ cs) : Bare cs :=
  fun _ _ hpart => h (hpart.subset List.mem_cons_self)

theorem bare_nil : Bare [] := bare_of_no_brace List.not_mem_nil

theorem flatMap_literals (render : String → List Char) (cs : List Char) :
    (cs.map Piece.literal).flatMap (fillPiece render) = cs := by
  rw [List.flatMap_map]
  exact List.flatMap_singleton' cs

/-- What stands before the first placeholder is no longer than what stands before any. -/
theorem length_le_of_placeholder {lead before after : List Char} {first path : String}
    {rest : List Piece} (hpieces : pieces cs = lead.map .literal ++ .path first :: rest)
    (hpath : PathText path.toList) (hcs : cs = before ++ (written path ++ after)) :
    lead.length ≤ before.length := by
  rw [hcs, pieces_around hpath] at hpieces
  obtain ⟨more, hbefore⟩ : ∃ more, pieces before = lead.map .literal ++ more := by
    rcases List.append_eq_append_iff.1 hpieces with ⟨more, hlead, hmore⟩ | ⟨more, hbefore, -⟩
    · cases more with
      | nil => exact ⟨[], by rw [hlead]; simp⟩
      | cons piece more =>
        -- the placeholder would be a character of the lead
        rw [List.cons_append] at hmore
        have hmem : Piece.path path ∈ lead.map Piece.literal := by
          rw [hlead, (List.cons.inj hmore).1]
          simp
        obtain ⟨c, -, hc⟩ := List.mem_map.1 hmem
        cases hc
    · exact ⟨more, hbefore⟩
  have htext : before = lead ++ more.flatMap (fillPiece written) := by
    rw [← fill_written before, fill, hbefore, List.flatMap_append, flatMap_literals]
  rw [htext, List.length_append]
  exact Nat.le_add_right _ _

/-! ## Layouts -/

/-- Plain texts with placeholders between them. -/
inductive Layout where
  /-- The text after the last placeholder. -/
  | last (plain : List Char)
  /-- A text, the path of the placeholder after it, and the rest. -/
  | next (plain : List Char) (path : String) (rest : Layout)

namespace Layout

variable {layout : Layout}

/-- The plain texts as they are, and in place of each placeholder what `render` makes of its
path. -/
def fill (render : String → List Char) : Layout → List Char
  | last plain => plain
  | next plain path rest => plain ++ (render path ++ rest.fill render)

/-- The text that is laid out. -/
def text (layout : Layout) : List Char := layout.fill written

/-- The placeholders have paths, and the plain texts have no placeholders. -/
def Proper : Layout → Prop
  | last plain => Bare plain
  | next plain path rest => Bare plain ∧ PathText path.toList ∧ rest.Proper

/-- The layout is one of the text. -/
structure Divides (layout : Layout) (cs : List Char) : Prop where
  /-- Nothing is lost. -/
  text : layout.text = cs
  /-- Nothing is missed. -/
  proper : layout.Proper

/-- No placeholder of what remains begins before the next one of the layout. -/
def Leftmost : Layout → Prop
  | last plain => Bare plain
  | next plain path rest =>
    (∀ (other : String) before after, PathText other.toList →
      (next plain path rest).text = before ++ (written other ++ after) →
        plain.length ≤ before.length) ∧ rest.Leftmost

/-- The layout with one more character in front. -/
def cons (c : Char) : Layout → Layout
  | last plain => last (c :: plain)
  | next plain path rest => next (c :: plain) path rest

/-- The layout of a list of pieces. -/
def ofPieces : List Piece → Layout
  | [] => last []
  | .literal c :: pieces => (ofPieces pieces).cons c
  | .path path :: pieces => next [] path (ofPieces pieces)

theorem fill_cons (render : String → List Char) (c : Char) (layout : Layout) :
    (layout.cons c).fill render = c :: layout.fill render := by
  cases layout <;> rfl

theorem fill_ofPieces (render : String → List Char) (pieces : List Piece) :
    (ofPieces pieces).fill render = pieces.flatMap (fillPiece render) := by
  induction pieces with
  | nil => rfl
  | cons piece pieces ih =>
    rw [List.flatMap_cons, ← ih]
    cases piece with
    | literal c => exact fill_cons render c _
    | path path => rfl

theorem ofPieces_literals (plain : List Char) (path : String) (pieces : List Piece) :
    ofPieces (plain.map .literal ++ .path path :: pieces) = next plain path (ofPieces pieces) := by
  induction plain with
  | nil => rfl
  | cons c plain ih =>
    rw [List.map_cons, List.cons_append, ofPieces, ih]
    rfl

theorem ofPieces_literals_last (plain : List Char) :
    ofPieces (plain.map .literal) = last plain := by
  induction plain with
  | nil => rfl
  | cons c plain ih =>
    rw [List.map_cons, ofPieces, ih]
    rfl

/-- The pieces of the text that is laid out. -/
theorem pieces_text (hplain : Bare cs) {path : String} (hpath : PathText path.toList)
    (rest : Layout) :
    pieces (next cs path rest).text = cs.map .literal ++ .path path :: pieces rest.text := by
  rw [text, fill, pieces_around hpath, pieces_of_bare hplain]
  rfl

/-- A text has no other layouts than that of its pieces. -/
theorem eq_ofPieces (h : layout.Proper) : layout = ofPieces (pieces layout.text) := by
  induction layout with
  | last plain => rw [text, fill, pieces_of_bare h, ofPieces_literals_last]
  | next plain path rest ih =>
    obtain ⟨hplain, hpath, hrest⟩ := h
    rw [pieces_text hplain hpath, ofPieces_literals, ← ih hrest]

theorem leftmost_of_proper (h : layout.Proper) : layout.Leftmost := by
  induction layout with
  | last plain => exact h
  | next plain path rest ih =>
    obtain ⟨hplain, hpath, hrest⟩ := h
    refine ⟨fun other before after hother hsplit => ?_, ih hrest⟩
    exact length_le_of_placeholder (pieces_text hplain hpath rest) hother hsplit

/-- A plain text stays without placeholders if none begins with the character put in front. -/
theorem bare_cons {c : Char} (h : Bare cs)
    (hfirst : ∀ path after, PathText path → c :: cs ≠ braced path ++ after) : Bare (c :: cs) := by
  intro path hpath hpart
  rcases List.infix_cons_iff.1 hpart with ⟨after, hafter⟩ | hrest
  · exact hfirst path after hpath hafter.symm
  · exact h path hpath hrest

theorem proper_cons {c : Char} (h : layout.Proper)
    (hfirst : ∀ path after, PathText path → c :: layout.text ≠ braced path ++ after) :
    (layout.cons c).Proper := by
  cases layout with
  | last plain => exact bare_cons h hfirst
  | next plain path rest =>
    obtain ⟨hplain, hpath, hrest⟩ := h
    refine ⟨bare_cons hplain fun other after hother hsplit => ?_, hpath, hrest⟩
    refine hfirst other (after ++ (written path ++ rest.text)) hother ?_
    rw [← List.append_assoc, ← hsplit]
    rfl

theorem proper_ofPieces (cs : List Char) : (ofPieces (pieces cs)).Proper := by
  have htext : ∀ cs, (ofPieces (pieces cs)).text = cs := fun cs =>
    (fill_ofPieces written (pieces cs)).trans (fill_written cs)
  induction cs using pieces.induct with
  | case1 =>
    rw [pieces]
    exact bare_nil
  | case2 rest path after hfound ih =>
    rw [pieces_placeholder hfound]
    exact ⟨bare_nil, (placeholder?_eq_some_iff.1 hfound).1, ih⟩
  | case3 rest hnone ih =>
    rw [pieces_open hnone]
    refine proper_cons ih fun path after hpath hsplit => ?_
    rw [htext, braced, List.cons_append, List.append_assoc] at hsplit
    exact placeholder?_eq_none_iff.1 hnone path after hpath (List.cons.inj hsplit).2
  | case4 c rest hc ih =>
    rw [pieces_literal hc]
    refine proper_cons ih fun path after hpath hsplit => ?_
    rw [braced, List.cons_append] at hsplit
    exact hc (List.cons.inj hsplit).1

end Layout

/-- The layout of a text. -/
def layout (cs : List Char) : Layout := .ofPieces (pieces cs)

theorem layout_divides (cs : List Char) : (layout cs).Divides cs :=
  ⟨(Layout.fill_ofPieces written (pieces cs)).trans (fill_written cs), Layout.proper_ofPieces cs⟩

theorem Layout.Divides.eq_layout {other : Layout} (h : other.Divides cs) : other = layout cs := by
  rw [layout, ← h.text]
  exact Layout.eq_ofPieces h.proper

theorem fill_layout (render : String → List Char) (cs : List Char) :
    (layout cs).fill render = fill render cs :=
  Layout.fill_ofPieces render (pieces cs)

end Template

namespace Variables

/-- **Filling is a single pass**: a template has one layout, in which every placeholder is the first
of what remains, and is filled by keeping the plain texts and putting the values between them.  Two
templates without a placeholder across their boundary are filled apart. -/
theorem interpolate_single_pass (template : String) :
    ∃ layout : Template.Layout, layout.Divides template.toList ∧ layout.Leftmost ∧
      (∀ other : Template.Layout, other.Divides template.toList → other = layout) ∧
      (∀ vars : Variables, vars.interpolate template =
        .ofList (layout.fill fun path => ((vars.render path).getD "").toList)) ∧
      ∀ (vars : Variables) (more : String),
        ¬ Template.Straddles template.toList more.toList →
          vars.interpolate (template ++ more) =
            vars.interpolate template ++ vars.interpolate more := by
  have hdivides := Template.layout_divides template.toList
  refine ⟨Template.layout template.toList, hdivides,
    Template.Layout.leftmost_of_proper hdivides.proper, fun other hother => hother.eq_layout,
    fun vars => ?_, fun vars more hapart => ?_⟩
  · rw [Template.fill_layout]
    rfl
  · rw [interpolate, String.toList_append, Template.fill, Template.pieces_append hapart,
      List.flatMap_append, String.ofList_append]
    rfl

end Variables

end Runbook
