import Runbook.Template

/-!
# Pieces of templates

How a template falls into pieces, case by case.

* `Template.pieces_placeholder`, `Template.pieces_literal` and `Template.pieces_open` are the ways in
  which a template can go on;
* `Template.pieces_braced` says that a path in braces is one placeholder, and
  `Template.fill_of_no_brace` that a text without braces stays as it is;
* `Template.fill_of_no_placeholder` says the same of any text without placeholders, and
  `Template.hasPlaceholder_of_part` that a text has the placeholders of its parts.
-/

namespace Runbook.Template

variable {cs : List Char}

theorem pieces_placeholder {path : String} {after : List Char}
    (h : placeholder? cs = some (path, after)) :
    pieces ('\x7b' :: cs) = .path path :: pieces after := by
  rw [pieces, if_pos rfl]
  split
  · next heq =>
    rw [h] at heq
    cases heq
    rfl
  · next heq =>
    rw [h] at heq
    cases heq

theorem pieces_literal {c : Char} (h : c ≠ '\x7b') (cs : List Char) :
    pieces (c :: cs) = .literal c :: pieces cs := by
  rw [pieces, if_neg h]

theorem pieces_open (h : placeholder? cs = none) :
    pieces ('\x7b' :: cs) = .literal '\x7b' :: pieces cs := by
  rw [pieces, if_pos rfl]
  split
  · next heq => rw [h] at heq; cases heq
  · rfl

theorem isPath_of_placeholder? {path : String} {after : List Char}
    (h : placeholder? cs = some (path, after)) : isPath path.toList = true := by
  unfold placeholder? at h
  split at h
  · split at h
    · next hpath =>
      cases h
      rw [String.toList_ofList]
      exact hpath
    · cases h
  · cases h

/-- The placeholders of a text have paths. -/
theorem isPath_of_mem_pieces {path : String} (h : Piece.path path ∈ pieces cs) :
    isPath path.toList = true := by
  induction cs using pieces.induct with
  | case1 => rw [pieces] at h; cases h
  | case2 rest found after hfound ih =>
    rw [pieces_placeholder hfound] at h
    rcases List.mem_cons.1 h with heq | h
    · cases heq
      exact isPath_of_placeholder? hfound
    · exact ih h
  | case3 rest hnone ih =>
    rw [pieces_open hnone] at h
    exact ih ((List.mem_cons.1 h).resolve_left nofun)
  | case4 c rest hc ih =>
    rw [pieces_literal hc] at h
    exact ih ((List.mem_cons.1 h).resolve_left nofun)

/-! ## Characters of paths -/

/-- What is split at dots has no other characters than dots and those of the segments. -/
theorem mem_segments {c : Char} (hc : c ∈ cs) : c = '.' ∨ ∃ segment ∈ segments cs, c ∈ segment := by
  induction cs with
  | nil => exact absurd hc List.not_mem_nil
  | cons d rest ih =>
    rw [segments]
    by_cases hd : d = '.'
    · rw [if_pos hd]
      rcases List.mem_cons.1 hc with rfl | hc
      · exact .inl hd
      · refine (ih hc).imp_right ?_
        rintro ⟨segment, hs, hcs⟩
        exact ⟨segment, List.mem_cons_of_mem _ hs, hcs⟩
    · rw [if_neg hd]
      cases hr : segments rest with
      | nil =>
        rcases List.mem_cons.1 hc with rfl | hc
        · exact .inr ⟨[c], List.mem_cons_self, List.mem_cons_self⟩
        · refine (ih hc).imp_right ?_
          rintro ⟨segment, hs, -⟩
          rw [hr] at hs
          exact absurd hs List.not_mem_nil
      | cons first more =>
        rcases List.mem_cons.1 hc with rfl | hc
        · exact .inr ⟨c :: first, List.mem_cons_self, List.mem_cons_self⟩
        · refine (ih hc).imp_right ?_
          rintro ⟨segment, hs, hcs⟩
          rw [hr] at hs
          rcases List.mem_cons.1 hs with rfl | hs
          · exact ⟨d :: segment, List.mem_cons_self, List.mem_cons_of_mem _ hcs⟩
          · exact ⟨segment, List.mem_cons_of_mem _ hs, hcs⟩

/-- What has no dots is one segment. -/
theorem segments_of_no_dot (h : '.' ∉ cs) : segments cs = [cs] := by
  induction cs with
  | nil => rfl
  | cons c rest ih =>
    rw [List.mem_cons, not_or] at h
    rw [segments, if_neg (Ne.symm h.1), ih h.2]

/-- A path has only characters that can stand in a path. -/
theorem inPath_of_isPath (h : isPath cs = true) : ∀ c ∈ cs, inPath c = true := by
  intro c hc
  unfold isPath at h
  rw [Bool.and_eq_true, List.all_eq_true] at h
  rcases mem_segments hc with rfl | ⟨segment, hs, hcs⟩
  · rfl
  · have hsegment := h.2 segment hs
    rw [Bool.and_eq_true, List.all_eq_true] at hsegment
    rw [inPath, hsegment.2 c hcs]
    rfl

/-! ## Templates of one form -/

/-- A path and a closing brace are a placeholder, with nothing left. -/
theorem placeholder?_path (h : isPath cs = true) :
    placeholder? (cs ++ ['\x7d']) = some (String.ofList cs, []) := by
  have hin := inPath_of_isPath h
  have htake : (cs ++ ['\x7d']).takeWhile inPath = cs := by
    rw [List.takeWhile_append_of_pos hin]
    exact List.append_nil cs
  have hdrop : (cs ++ ['\x7d']).dropWhile inPath = ['\x7d'] := by
    rw [List.dropWhile_append_of_pos hin]
    rfl
  rw [placeholder?, hdrop, htake]
  exact if_pos h

/-- A path in braces is one placeholder. -/
theorem pieces_braced (h : isPath cs = true) :
    pieces ('\x7b' :: (cs ++ ['\x7d'])) = [.path (String.ofList cs)] := by
  rw [pieces_placeholder (placeholder?_path h), pieces]

/-- A path in braces turns into the text of its value. -/
theorem fill_braced (render : String → List Char) (h : isPath cs = true) :
    fill render ('\x7b' :: (cs ++ ['\x7d'])) = render (String.ofList cs) := by
  rw [fill, pieces_braced h]
  exact List.append_nil _

/-- A text without opening braces stays as it is. -/
theorem fill_of_no_brace (render : String → List Char) (h : ∀ c ∈ cs, c ≠ '\x7b') :
    fill render cs = cs := by
  induction cs with
  | nil => rw [fill, pieces]; rfl
  | cons c rest ih =>
    have hrest : fill render rest = rest := ih fun d hd => h d (List.mem_cons_of_mem _ hd)
    rw [fill, pieces_literal (h c List.mem_cons_self), List.flatMap_cons, ← fill, hrest]
    rfl

/-! ## Texts without placeholders -/

theorem hasPlaceholder_placeholder {path : String} {after : List Char}
    (h : placeholder? cs = some (path, after)) : hasPlaceholder ('\x7b' :: cs) = true := by
  rw [hasPlaceholder, pieces_placeholder h]
  rfl

theorem hasPlaceholder_literal {c : Char} (h : c ≠ '\x7b') (cs : List Char) :
    hasPlaceholder (c :: cs) = hasPlaceholder cs := by
  rw [hasPlaceholder, pieces_literal h]
  rfl

/-- A text without placeholders is made of its characters. -/
theorem pieces_of_no_placeholder (h : hasPlaceholder cs = false) :
    pieces cs = cs.map .literal := by
  induction cs using pieces.induct with
  | case1 => rw [pieces]; rfl
  | case2 rest path after hfound ih =>
    rw [hasPlaceholder_placeholder hfound] at h
    cases h
  | case3 rest hnone ih =>
    rw [hasPlaceholder, pieces_open hnone] at h
    rw [pieces_open hnone, ih h]
    rfl
  | case4 c rest hc ih =>
    rw [hasPlaceholder_literal hc] at h
    rw [pieces_literal hc, ih h]
    rfl

/-- A text without placeholders stays as it is. -/
theorem fill_of_no_placeholder (render : String → List Char) (h : hasPlaceholder cs = false) :
    fill render cs = cs := by
  rw [fill, pieces_of_no_placeholder h, List.flatMap_map]
  exact List.flatMap_singleton' cs

/-- A placeholder does not depend on what comes after it. -/
theorem placeholder?_append {path : String} {after : List Char}
    (h : placeholder? cs = some (path, after)) (more : List Char) :
    placeholder? (cs ++ more) = some (path, after ++ more) := by
  unfold placeholder? at h
  split at h
  case h_1 rest hdrop =>
    split at h
    case isTrue hpath =>
      cases h
      have hsplit : cs = cs.takeWhile inPath ++ '\x7d' :: after := by
        rw [← hdrop, List.takeWhile_append_dropWhile]
      have hin : ∀ c ∈ cs.takeWhile inPath, inPath c = true :=
        List.all_eq_true.1 List.all_takeWhile
      have htake : (cs ++ more).takeWhile inPath = cs.takeWhile inPath := by
        rw [hsplit, List.append_assoc, List.takeWhile_append_of_pos hin,
          List.takeWhile_append_of_pos hin]
        rfl
      have hrest : (cs ++ more).dropWhile inPath = '\x7d' :: (after ++ more) := by
        rw [hsplit, List.append_assoc, List.dropWhile_append_of_pos hin]
        rfl
      rw [placeholder?, hrest, htake]
      exact if_pos hpath
    case isFalse => cases h
  case h_2 => cases h

theorem hasPlaceholder_cons (c : Char) (h : hasPlaceholder cs = true) :
    hasPlaceholder (c :: cs) = true := by
  by_cases hc : c = '\x7b'
  · subst hc
    cases hfound : placeholder? cs with
    | some found => exact hasPlaceholder_placeholder hfound
    | none => rw [hasPlaceholder, pieces_open hfound]; exact h
  · rw [hasPlaceholder_literal hc]
    exact h

theorem hasPlaceholder_append_right (before : List Char) (h : hasPlaceholder cs = true) :
    hasPlaceholder (before ++ cs) = true := by
  induction before with
  | nil => exact h
  | cons c rest ih => exact hasPlaceholder_cons c ih

theorem hasPlaceholder_append_left (more : List Char) (h : hasPlaceholder cs = true) :
    hasPlaceholder (cs ++ more) = true := by
  induction cs using pieces.induct with
  | case1 => rw [hasPlaceholder, pieces] at h; cases h
  | case2 rest path after hfound ih =>
    exact hasPlaceholder_placeholder (placeholder?_append hfound more)
  | case3 rest hnone ih =>
    rw [hasPlaceholder, pieces_open hnone] at h
    exact hasPlaceholder_cons _ (ih h)
  | case4 c rest hc ih =>
    rw [hasPlaceholder_literal hc] at h
    exact hasPlaceholder_cons c (ih h)

/-- A text has a placeholder if a part of it has one. -/
theorem hasPlaceholder_of_part {part : List Char} (h : part <:+: cs)
    (hpart : hasPlaceholder part = true) : hasPlaceholder cs = true := by
  obtain ⟨before, after, rfl⟩ := h
  exact hasPlaceholder_append_left after (hasPlaceholder_append_right before hpart)

end Runbook.Template
