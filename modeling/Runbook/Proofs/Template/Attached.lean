import Runbook.Attachment
import Runbook.Proofs.Template.Pieces

/-!
# Long values in files

What the files of a run hold after a template was filled.

* `Variables.longPaths` are the placeholders whose values go to files, in the order of the template;
* `Attachments.latest?` is the last of them that goes to a file of some name;
* `Variables.attach_ok_iff` says when a template is filled at all;
* `Variables.attach_references` says which text comes out, what the files hold, and when each of
  them holds the value that it is named for.

File names keep of a path all but the difference between dots and underscores
(`Attachments.fileName_eq_iff`), so two placeholders can meet on one file, and the later value
stays in it.
-/

namespace Runbook

/-! ## Names of files -/

namespace Attachments

/-- The last of the paths whose file has the name. -/
def latest? (name : String) (paths : List String) : Option String :=
  paths.reverse.find? (fun path => fileName path = name)

theorem latest?_cons (name path : String) (paths : List String) :
    latest? name (path :: paths) =
      (latest? name paths).or (if fileName path = name then some path else none) := by
  rw [latest?, List.reverse_cons, List.find?_append, ← latest?, List.find?_singleton]
  simp only [decide_eq_true_eq]

theorem fileName_of_latest? {name path : String} {paths : List String}
    (h : latest? name paths = some path) : fileName path = name := by
  have hfound := List.find?_some h
  exact of_decide_eq_true hfound

theorem mem_of_latest? {name path : String} {paths : List String}
    (h : latest? name paths = some path) : path ∈ paths :=
  List.mem_reverse.1 (List.mem_of_find?_eq_some h)

/-- A path whose file has the name has a last one like it. -/
theorem exists_latest? {path : String} {paths : List String} (h : path ∈ paths) :
    ∃ last, latest? (fileName path) paths = some last := by
  rw [← Option.isSome_iff_exists, latest?, List.find?_isSome]
  exact ⟨path, List.mem_reverse.2 h, decide_eq_true rfl⟩

/-- The character of a file name for a character of a path. -/
def undotted (c : Char) : Char := if c = '.' then '_' else c

theorem nameChar_of_inPath {c : Char} (h : Template.inPath c = true) : nameChar c = undotted c := by
  rw [Template.inPath, Bool.or_eq_true, beq_iff_eq] at h
  rcases h with h | rfl
  · have hdot : c ≠ '.' := by
      rintro rfl
      exact absurd h (by decide)
    rw [nameChar, if_pos h, undotted, if_neg hdot]
  · rfl

/-- Two paths meet on one file exactly if they differ at most in dots and underscores. -/
theorem fileName_eq_iff {p q : String} (hp : Template.isPath p.toList = true)
    (hq : Template.isPath q.toList = true) :
    fileName p = fileName q ↔ p.toList.map undotted = q.toList.map undotted := by
  have hname : ∀ {s : String}, Template.isPath s.toList = true →
      s.toList.map nameChar = s.toList.map undotted := fun hs =>
    List.map_congr_left fun c hc => nameChar_of_inPath (Template.inPath_of_isPath hs c hc)
  rw [← hname hp, ← hname hq, fileName, fileName, String.append_left_inj, String.ofList_inj]

end Attachments

/-! ## Filling a template -/

namespace Variables

open Attachments

variable (vars : Variables) (store : Attachments)

/-- The path of a placeholder whose value has more characters than the threshold. -/
def longPath? (threshold : Nat) : Piece → Option String
  | .literal _ => none
  | .path path => if threshold < (vars.rendered path).length then some path else none

/-- The paths of the placeholders whose values have more characters than the threshold. -/
def longPaths (threshold : Nat) (pieces : List Piece) : List String :=
  pieces.filterMap (vars.longPath? threshold)

/-- What a placeholder turns into where long values are stored in files. -/
def reference (path : String) : List Char :=
  if store.threshold < (vars.rendered path).length then '@' :: (store.filePath path).toList
  else vars.rendered path

theorem mem_longPaths {threshold : Nat} {pieces : List Piece} {path : String} :
    path ∈ vars.longPaths threshold pieces ↔
      Piece.path path ∈ pieces ∧ threshold < (vars.rendered path).length := by
  rw [longPaths, List.mem_filterMap]
  constructor
  · rintro ⟨piece, hpiece, hlong⟩
    cases piece with
    | literal c => cases hlong
    | path other =>
      rw [longPath?] at hlong
      split at hlong
      · next hlt =>
        cases hlong
        exact ⟨hpiece, hlt⟩
      · cases hlong
  · rintro ⟨hpiece, hlt⟩
    exact ⟨.path path, hpiece, if_pos hlt⟩

/-- The files after the values of paths were stored, one after the other. -/
def filed (files : KeyMap String) (paths : List String) : KeyMap String :=
  paths.foldl (fun files path => files.insert (fileName path) (String.ofList (vars.rendered path)))
    files

/-- A file holds the last value that was stored under its name. -/
theorem find?_filed (files : KeyMap String) (paths : List String) (name : String) :
    (vars.filed files paths).find? name =
      ((latest? name paths).map fun path => String.ofList (vars.rendered path)).or
        (files.find? name) := by
  induction paths generalizing files with
  | nil => rfl
  | cons path rest ih =>
    rw [filed, List.foldl_cons, ← filed, ih, latest?_cons, KeyMap.find?_insert]
    cases latest? name rest with
    | some last => rfl
    | none =>
      by_cases hname : fileName path = name
      · rw [if_pos hname, if_pos hname.symm]
        rfl
      · rw [if_neg hname, if_neg (Ne.symm hname)]
        rfl

/-! ### Piece by piece -/

section Pieces

variable {vars store} {pieces : List Piece} {path : String}

theorem longPaths_long {threshold : Nat} (h : threshold < (vars.rendered path).length) :
    vars.longPaths threshold (.path path :: pieces) = path :: vars.longPaths threshold pieces :=
  List.filterMap_cons_some (if_pos h)

theorem longPaths_short {threshold : Nat} (h : ¬ threshold < (vars.rendered path).length) :
    vars.longPaths threshold (.path path :: pieces) = vars.longPaths threshold pieces :=
  List.filterMap_cons_none (if_neg h)

/-- The directory after the value of a path was stored. -/
def stored (vars : Variables) (store : Attachments) (path : String) : Attachments :=
  { store with files := vars.filed store.files [path] }

/-- A long value goes to its file, and the rest is filled with that file there. -/
theorem attachPieces_long (hlong : store.threshold < (vars.rendered path).length)
    (hfits : ¬ nameLimit < (fileName path).length) :
    (vars.attachPieces store (.path path :: pieces)).outcome =
        (vars.attachPieces (vars.stored store path) pieces).outcome.map
          (vars.reference store path ++ ·) ∧
      (vars.attachPieces store (.path path :: pieces)).store =
        (vars.attachPieces (vars.stored store path) pieces).store := by
  rw [attachPieces, if_pos hlong, write, if_neg hfits, reference, if_pos hlong]
  exact ⟨rfl, rfl⟩

/-- A short value stays inline. -/
theorem attachPieces_short (hlong : ¬ store.threshold < (vars.rendered path).length) :
    (vars.attachPieces store (.path path :: pieces)).outcome =
        (vars.attachPieces store pieces).outcome.map (vars.reference store path ++ ·) ∧
      (vars.attachPieces store (.path path :: pieces)).store =
        (vars.attachPieces store pieces).store := by
  rw [attachPieces, if_neg hlong, reference, if_neg hlong]
  exact ⟨rfl, rfl⟩

/-- Where every name fits, the pieces turn into what they stand for, and the long values are
stored in the order of the pieces. -/
theorem attachPieces_ok
    (h : ∀ path ∈ vars.longPaths store.threshold pieces, (fileName path).length ≤ nameLimit) :
    (vars.attachPieces store pieces).outcome =
        .ok (pieces.flatMap (Template.fillPiece (vars.reference store))) ∧
      (vars.attachPieces store pieces).store =
        { store with files := vars.filed store.files (vars.longPaths store.threshold pieces) } := by
  induction pieces generalizing store with
  | nil => exact ⟨rfl, rfl⟩
  | cons piece rest ih =>
    cases piece with
    | literal c =>
      obtain ⟨htext, hstore⟩ := ih h
      rw [attachPieces, htext, hstore]
      exact ⟨rfl, rfl⟩
    | path path =>
      by_cases hlong : store.threshold < (vars.rendered path).length
      · rw [longPaths_long hlong] at h ⊢
        have hfits := Nat.not_lt.2 (h path List.mem_cons_self)
        obtain ⟨houtcome, hafter⟩ := @attachPieces_long _ _ rest _ hlong hfits
        obtain ⟨htext, hstore⟩ := @ih (vars.stored store path)
          fun other hother => h other (List.mem_cons_of_mem _ hother)
        rw [houtcome, hafter, htext, hstore]
        exact ⟨rfl, rfl⟩
      · rw [longPaths_short hlong] at h ⊢
        obtain ⟨houtcome, hafter⟩ := @attachPieces_short _ _ rest _ hlong
        obtain ⟨htext, hstore⟩ := ih h
        rw [houtcome, hafter, htext, hstore]
        exact ⟨rfl, rfl⟩

/-- Where a name does not fit, the template is not filled. -/
theorem attachPieces_error (hpath : path ∈ vars.longPaths store.threshold pieces)
    (hname : nameLimit < (fileName path).length) :
    ∃ failure, (vars.attachPieces store pieces).outcome = .error failure := by
  induction pieces generalizing store with
  | nil => cases hpath
  | cons piece rest ih =>
    cases piece with
    | literal c =>
      obtain ⟨failure, hfailure⟩ := ih hpath
      refine ⟨failure, ?_⟩
      rw [attachPieces, hfailure]
      rfl
    | path first =>
      by_cases hlong : store.threshold < (vars.rendered first).length
      · rw [longPaths_long hlong] at hpath
        by_cases hfits : nameLimit < (fileName first).length
        · rw [attachPieces, if_pos hlong, write, if_pos hfits]
          exact ⟨_, rfl⟩
        · have hrest : path ∈ vars.longPaths store.threshold rest := by
            rcases List.mem_cons.1 hpath with rfl | hrest
            · exact absurd hname hfits
            · exact hrest
          obtain ⟨failure, hfailure⟩ := @ih (vars.stored store first) hrest
          refine ⟨failure, ?_⟩
          rw [(attachPieces_long hlong hfits).1, hfailure]
          rfl
      · rw [longPaths_short hlong] at hpath
        obtain ⟨failure, hfailure⟩ := ih hpath
        refine ⟨failure, ?_⟩
        rw [(attachPieces_short hlong).1, hfailure]
        rfl

end Pieces

/-! ### The whole template -/

/-- The paths of the placeholders of a template whose values go to files, in their order. -/
def storedPaths (template : String) : List String :=
  vars.longPaths store.threshold (Template.pieces template.toList)

/-- A template is filled exactly if the names of its files fit. -/
theorem attach_ok_iff (template : String) :
    (∃ text, (vars.attach store template).outcome = .ok text) ↔
      ∀ path ∈ vars.storedPaths store template, (fileName path).length ≤ nameLimit := by
  constructor
  · rintro ⟨text, htext⟩ path hpath
    refine Nat.not_lt.1 fun hname => ?_
    obtain ⟨failure, hfailure⟩ := attachPieces_error hpath hname
    rw [attach, hfailure] at htext
    cases htext
  · intro h
    exact ⟨_, (attachPieces_ok h).1⟩

/-- Whether the files hold, under the name for each long placeholder of the template, its value. -/
def Truthful (template : String) (files : KeyMap String) : Prop :=
  ∀ path ∈ vars.storedPaths store template,
    files.find? (fileName path) = some (String.ofList (vars.rendered path))

/-- A filled template names a file for every long placeholder.  The file holds the value of the
last placeholder of that file, so every file holds what it is named for exactly if placeholders
that share a file have one value. -/
theorem attach_references (template : String) {text : List Char}
    (h : (vars.attach store template).outcome = .ok text) :
    text = Template.fill (vars.reference store) template.toList ∧
      (∀ path ∈ vars.storedPaths store template,
        ∃ last, latest? (fileName path) (vars.storedPaths store template) = some last ∧
          (vars.attach store template).store.files.find? (fileName path) =
            some (String.ofList (vars.rendered last))) ∧
      (vars.Truthful store template (vars.attach store template).store.files ↔
        ∀ p ∈ vars.storedPaths store template, ∀ q ∈ vars.storedPaths store template,
          fileName p = fileName q → vars.rendered p = vars.rendered q) := by
  obtain ⟨htext, hstore⟩ := attachPieces_ok ((vars.attach_ok_iff store template).1 ⟨text, h⟩)
  have hfile : ∀ path ∈ vars.storedPaths store template,
      ∃ last, latest? (fileName path) (vars.storedPaths store template) = some last ∧
        (vars.attach store template).store.files.find? (fileName path) =
          some (String.ofList (vars.rendered last)) := by
    intro path hpath
    obtain ⟨last, hlast⟩ := exists_latest? hpath
    refine ⟨last, hlast, ?_⟩
    rw [attach, hstore]
    rw [storedPaths] at hlast
    rw [find?_filed, hlast]
    rfl
  refine ⟨?_, hfile, ?_, ?_⟩
  · rw [attach, htext] at h
    exact (Except.ok.inj h).symm
  · -- both values are in the one file
    intro htrue p hp q hq hname
    have hheld := htrue p hp
    rw [hname, htrue q hq] at hheld
    exact (String.ofList_inj.1 (Option.some.inj hheld)).symm
  · intro hsame path hpath
    obtain ⟨last, hlast, hheld⟩ := hfile path hpath
    rw [hheld, hsame last (mem_of_latest? hlast) path hpath (fileName_of_latest? hlast)]

/-- A dotted and an underscored path to two values. -/
def meeting : Variables :=
  .ofList [("a", .object [("b", .string "first")]), ("a_b", .string "second")]

/-- An empty directory for values of more than three characters. -/
def shelf : Attachments := ⟨"/tmp", 3, .empty⟩

theorem pieces_meeting :
    Template.pieces "\x7ba.b\x7d \x7ba_b\x7d".toList = [.path "a.b", .literal ' ', .path "a_b"] := by
  have hsecond : Template.pieces "\x7ba_b\x7d".toList = [.path "a_b"] :=
    @Template.pieces_braced "a_b".toList (by decide)
  have hfirst : Template.pieces "\x7ba.b\x7d \x7ba_b\x7d".toList =
      .path "a.b" :: Template.pieces " \x7ba_b\x7d".toList :=
    Template.pieces_placeholder (by decide)
  refine hfirst.trans (congrArg _ ?_)
  exact (Template.pieces_literal (by decide) _).trans (congrArg _ hsecond)

theorem storedPaths_meeting :
    meeting.storedPaths shelf "\x7ba.b\x7d \x7ba_b\x7d" = ["a.b", "a_b"] := by
  rw [storedPaths, pieces_meeting]
  decide +kernel

theorem outcome_meeting :
    (meeting.attach shelf "\x7ba.b\x7d \x7ba_b\x7d").outcome =
      .ok "@/tmp/a_b.txt @/tmp/a_b.txt".toList := by
  rw [attach, pieces_meeting]
  rfl

theorem attach_references_meeting :
    (meeting.attach shelf "\x7ba.b\x7d \x7ba_b\x7d").outcome =
        .ok "@/tmp/a_b.txt @/tmp/a_b.txt".toList ∧
      ∃ last, (meeting.attach shelf "\x7ba.b\x7d \x7ba_b\x7d").store.files.find? "a_b.txt" =
        some (String.ofList (meeting.rendered last)) := by
  have hstored : "a.b" ∈ meeting.storedPaths shelf "\x7ba.b\x7d \x7ba_b\x7d" := by
    rw [storedPaths_meeting]
    decide
  obtain ⟨-, hfile, -⟩ := attach_references meeting shelf _ outcome_meeting
  obtain ⟨last, -, hlast⟩ := hfile "a.b" hstored
  exact ⟨outcome_meeting, last, hlast⟩

/-- Both placeholders name one file, and it holds the value of the second. -/
theorem attach_meeting :
    (meeting.attach shelf "\x7ba.b\x7d \x7ba_b\x7d").outcome =
        .ok "@/tmp/a_b.txt @/tmp/a_b.txt".toList ∧
      ¬ meeting.Truthful shelf "\x7ba.b\x7d \x7ba_b\x7d"
        (meeting.attach shelf "\x7ba.b\x7d \x7ba_b\x7d").store.files := by
  refine ⟨outcome_meeting, fun htrue => ?_⟩
  rw [Truthful, storedPaths_meeting, attach, pieces_meeting] at htrue
  exact absurd (htrue "a.b" (by decide)) (by decide +kernel)

end Variables

end Runbook
