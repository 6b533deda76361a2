import Runbook.Proofs.Template.Attached
import Runbook.Proofs.Template.Layout

/-!
# Attached and inlined values

A template that is filled with long values in files differs from the same template filled inline
only in the placeholders of these values.  Whether a file can be written is not up to the template,
so files are written here in any way that may fail.

* `Attachments.Writer` is a way to write files, and `Attachments.writer` the one of a run;
* `Variables.attachBy` fills a template with files written in some way;
* `Variables.storeBy` stores the values of some paths, up to the first write that fails;
* `Variables.attachPiecesBy_outcome` says what text comes out of the pieces of a template, and
  `Variables.attach_interpolates` compares it with the text that is filled inline.
-/

namespace Runbook

namespace Attachments

/-- A way to put a text into a file with a name: the files afterwards, unless it fails. -/
abbrev Writer := KeyMap String → String → String → Except Failure (KeyMap String)

/-- The way in which a run writes its files. -/
def writer : Writer := fun files name content =>
  if nameLimit < name.length then .error (.io "File name too long (os error 36)")
  else .ok (files.insert name content)

theorem write_eq (store : Attachments) (path content : String) :
    store.write path content =
      (writer store.files (fileName path) content).map fun files => { store with files } := by
  rw [write, writer]
  split <;> rfl

end Attachments

namespace Variables

open Attachments

variable (vars : Variables) (write : Writer) (store : Attachments)

/-- Fills the pieces of a template from left to right, with files written in some way. -/
def attachPiecesBy : Attachments → List Piece → Attached
  | store, [] => ⟨.ok [], store, []⟩
  | store, .literal c :: rest =>
    let more := attachPiecesBy store rest
    ⟨more.outcome.map (c :: ·), more.store, more.log⟩
  | store, .path path :: rest =>
    let value := vars.rendered path
    if store.threshold < value.length then
      match write store.files (fileName path) (String.ofList value) with
      | .error failure => ⟨.error failure, store, []⟩
      | .ok files =>
        let line := LogLine.debug
          s!"[Context] Externalized '{path}' ({value.length} chars) to {store.filePath path}"
        let more := attachPiecesBy { store with files } rest
        ⟨more.outcome.map (('@' :: (store.filePath path).toList) ++ ·), more.store,
          line :: more.log⟩
    else
      let more := attachPiecesBy store rest
      ⟨more.outcome.map (value ++ ·), more.store, more.log⟩

/-- Fills a template, long values going to files that are written in some way. -/
def attachBy (template : String) : Attached :=
  vars.attachPiecesBy write store (Template.pieces template.toList)

/-- Stores the values of paths one after the other, up to the first that cannot be written. -/
def storeBy (files : KeyMap String) (paths : List String) : Except Failure (KeyMap String) :=
  paths.foldlM (fun files path => write files (fileName path) (String.ofList (vars.rendered path)))
    files

section Pieces

variable {vars write store} {pieces : List Piece} {path : String}

theorem attachPiecesBy_writer (store : Attachments) (pieces : List Piece) :
    vars.attachPiecesBy writer store pieces = vars.attachPieces store pieces := by
  induction pieces generalizing store with
  | nil => rfl
  | cons piece rest ih =>
    cases piece with
    | literal c => rw [attachPiecesBy, attachPieces, ih]
    | path path =>
      rw [attachPiecesBy, attachPieces]
      dsimp only
      rw [write_eq]
      split
      · cases writer store.files (fileName path) (String.ofList (vars.rendered path)) with
        | error failure => rfl
        | ok files => simp only [Except.map, ih]
      · rw [ih]

theorem storeBy_of_error {files : KeyMap String} {paths : List String} {failure : Failure}
    (h : write files (fileName path) (String.ofList (vars.rendered path)) = .error failure) :
    vars.storeBy write files (path :: paths) = .error failure := by
  rw [storeBy, List.foldlM_cons, h]
  rfl

theorem storeBy_of_ok {files stored : KeyMap String} {paths : List String}
    (h : write files (fileName path) (String.ofList (vars.rendered path)) = .ok stored) :
    vars.storeBy write files (path :: paths) = vars.storeBy write stored paths := by
  rw [storeBy, List.foldlM_cons, h]
  rfl

/-- Storing ends with the first write that fails. -/
theorem storeBy_of_fails {files stored : KeyMap String} {before after : List String}
    {failure : Failure} (hbefore : vars.storeBy write files before = .ok stored)
    (h : write stored (fileName path) (String.ofList (vars.rendered path)) = .error failure) :
    vars.storeBy write files (before ++ path :: after) = .error failure := by
  rw [storeBy, List.foldlM_append, ← storeBy, hbefore]
  exact storeBy_of_error h

/-- A template turns into what its pieces stand for, once the long values among them are stored. -/
theorem attachPiecesBy_outcome :
    (vars.attachPiecesBy write store pieces).outcome =
      (vars.storeBy write store.files (vars.longPaths store.threshold pieces)).map
        fun _ => pieces.flatMap (Template.fillPiece (vars.reference store)) := by
  induction pieces generalizing store with
  | nil => rfl
  | cons piece rest ih =>
    cases piece with
    | literal c =>
      have hrest := @ih store
      rw [attachPiecesBy, hrest]
      show _ = (vars.storeBy write store.files (vars.longPaths store.threshold rest)).map _
      cases vars.storeBy write store.files (vars.longPaths store.threshold rest) <;> rfl
    | path path =>
      rw [attachPiecesBy, List.flatMap_cons, Template.fillPiece, reference]
      by_cases hlong : store.threshold < (vars.rendered path).length
      · rw [longPaths_long hlong, if_pos hlong, if_pos hlong]
        cases hwrite : write store.files (fileName path) (String.ofList (vars.rendered path)) with
        | error failure => rw [storeBy_of_error hwrite]; rfl
        | ok files =>
          have hrest := @ih { store with files }
          rw [storeBy_of_ok hwrite]
          dsimp only at hrest ⊢
          rw [hrest]
          cases vars.storeBy write files (vars.longPaths store.threshold rest) <;> rfl
      · rw [longPaths_short hlong, if_neg hlong, if_neg hlong]
        dsimp only
        rw [@ih store]
        cases vars.storeBy write store.files (vars.longPaths store.threshold rest) <;> rfl

/-- Only the files of a directory change, and they hold the long values of the template. -/
theorem attachPiecesBy_store {files : KeyMap String}
    (h : vars.storeBy write store.files (vars.longPaths store.threshold pieces) = .ok files) :
    (vars.attachPiecesBy write store pieces).store = { store with files } := by
  induction pieces generalizing store with
  | nil => cases h; rfl
  | cons piece rest ih =>
    cases piece with
    | literal c => exact ih h
    | path path =>
      rw [attachPiecesBy]
      by_cases hlong : store.threshold < (vars.rendered path).length
      · rw [longPaths_long hlong] at h
        rw [if_pos hlong]
        cases hwrite : write store.files (fileName path) (String.ofList (vars.rendered path)) with
        | error failure =>
          rw [storeBy_of_error hwrite] at h
          cases h
        | ok stored =>
          rw [storeBy_of_ok hwrite] at h
          exact @ih { store with files := stored } h
      · rw [longPaths_short hlong] at h
        rw [if_neg hlong]
        exact ih h

end Pieces

/-- Without long values nothing is stored, and every placeholder turns into its value. -/
theorem flatMap_reference_of_short {pieces : List Piece}
    (h : ∀ path, Piece.path path ∈ pieces → (vars.rendered path).length ≤ store.threshold) :
    vars.longPaths store.threshold pieces = [] ∧
      pieces.flatMap (Template.fillPiece (vars.reference store)) =
        pieces.flatMap (Template.fillPiece vars.rendered) := by
  constructor
  · refine List.eq_nil_iff_forall_not_mem.2 fun path hpath => ?_
    obtain ⟨hmem, hlong⟩ := vars.mem_longPaths.1 hpath
    exact absurd hlong (Nat.not_lt.2 (h path hmem))
  · rw [List.flatMap_def, List.flatMap_def]
    refine congrArg List.flatten (List.map_congr_left fun piece hpiece => ?_)
    cases piece with
    | literal c => rfl
    | path path => exact if_neg (Nat.not_lt.2 (h path hpiece))

/-- **Attaching and inlining agree**: the two ways to fill a template keep the same plain texts of
its one layout and differ in the placeholders of long values only, which turn into an at sign and
the path of their file.  A template without long values is filled inline and writes nothing, and
the first write that fails is what becomes of the whole. -/
theorem attach_interpolates (template : String) :
    (∃ layout : Template.Layout, layout.Divides template.toList ∧
      vars.interpolate template = .ofList (layout.fill vars.rendered) ∧
      ∀ files, vars.storeBy write store.files (vars.storedPaths store template) = .ok files →
        (vars.attachBy write store template).outcome = .ok (layout.fill fun path =>
            if store.threshold < (vars.rendered path).length then
              '@' :: (store.directory ++ "/" ++ fileName path).toList
            else vars.rendered path) ∧
          (vars.attachBy write store template).store = { store with files }) ∧
      ((∀ path, Piece.path path ∈ Template.pieces template.toList →
          (vars.rendered path).length ≤ store.threshold) →
        (vars.attachBy write store template).outcome = .ok (vars.interpolate template).toList ∧
          (vars.attachBy write store template).store = store) ∧
      (∀ before path after files failure,
        vars.storedPaths store template = before ++ path :: after →
          vars.storeBy write store.files before = .ok files →
            write files (fileName path) (String.ofList (vars.rendered path)) = .error failure →
              (vars.attachBy write store template).outcome = .error failure) ∧
      vars.attachBy writer store template = vars.attach store template := by
  refine ⟨⟨Template.layout template.toList, Template.layout_divides _, ?_, fun files hfiles => ?_⟩,
    fun hshort => ?_, fun before path after files failure hpaths hbefore hwrite => ?_,
    attachPiecesBy_writer _ _⟩
  · rw [Template.fill_layout]
    rfl
  · refine ⟨?_, attachPiecesBy_store hfiles⟩
    rw [storedPaths] at hfiles
    rw [attachBy, attachPiecesBy_outcome, hfiles, Template.fill_layout]
    rfl
  · obtain ⟨hnone, htext⟩ := vars.flatMap_reference_of_short store hshort
    constructor
    · rw [attachBy, attachPiecesBy_outcome, hnone, htext, interpolate, String.toList_ofList]
      rfl
    · exact attachPiecesBy_store (congrArg (vars.storeBy write store.files) hnone)
  · rw [storedPaths] at hpaths
    rw [attachBy, attachPiecesBy_outcome, hpaths, storeBy_of_fails hbefore hwrite]
    rfl

/-- A disk without room for another file. -/
def full : Writer := fun _ _ _ => .error (.io "No space left on device (os error 28)")

theorem attach_interpolates_full :
    (meeting.attachBy full shelf "\x7ba.b\x7d \x7ba_b\x7d").outcome =
      .error (.io "No space left on device (os error 28)") := by
  obtain ⟨-, -, hfails, -⟩ := attach_interpolates meeting full shelf "\x7ba.b\x7d \x7ba_b\x7d"
  exact hfails [] "a.b" ["a_b"] .empty _ storedPaths_meeting rfl rfl

end Variables

end Runbook
