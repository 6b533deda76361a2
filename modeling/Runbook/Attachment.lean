import Runbook.Failure
import Runbook.Log
import Runbook.Text.Utf8
import Runbook.Variables

/-!
# Attachments

A tool that reads files gets a long value as a file.  The files of a run lie in a directory of its
own; a placeholder whose value has more characters than the threshold turns into an at sign and
the path of the file that holds the value.

* `Attachments.fileName` names the file after the path of the placeholder;
* `Attachments.write` stores a value;
* `Variables.attach` fills a template, storing long values on the way.
-/

namespace Runbook

/-- The directory of a run, and what lies in it. -/
structure Attachments where
  /-- The path of the directory. -/
  directory : String
  /-- The most characters that a value may have inline. -/
  threshold : Nat
  /-- The files by name. -/
  files : KeyMap String

namespace Attachments

/-- The most bytes that the name of a file can have. -/
def nameLimit : Nat := 255

/-- A character of a file name: letters, digits, underscores and hyphens stay. -/
def nameChar (c : Char) : Char :=
  if Template.inSegment c then c else '_'

/-- The name of the file for a path. -/
def fileName (path : String) : String := String.ofList (path.toList.map nameChar) ++ ".txt"

/-- The full path of the file for a path. -/
def filePath (store : Attachments) (path : String) : String :=
  s!"{store.directory}/{fileName path}"

/-- Stores a value under the name for a path. -/
def write (store : Attachments) (path content : String) : Except Failure Attachments :=
  if nameLimit < (fileName path).length then .error (.io "File name too long (os error 36)")
  else .ok { store with files := store.files.insert (fileName path) content }

end Attachments

/-- What comes of filling a template with long values stored in files. -/
structure Attached where
  /-- The text, unless a file could not be written. -/
  outcome : Except Failure (List Char)
  /-- The files afterwards. -/
  store : Attachments
  /-- What was reported on the way. -/
  log : List LogLine

namespace Variables

/-- Fills the pieces of a template from left to right. -/
def attachPieces (vars : Variables) : Attachments → List Piece → Attached
  | store, [] => ⟨.ok [], store, []⟩
  | store, .literal c :: rest =>
    let more := attachPieces vars store rest
    ⟨more.outcome.map (c :: ·), more.store, more.log⟩
  | store, .path path :: rest =>
    let value := vars.rendered path
    if store.threshold < value.length then
      match store.write path (String.ofList value) with
      | .error failure => ⟨.error failure, store, []⟩
      | .ok written =>
        let line := LogLine.debug
          s!"[Context] Externalized '{path}' ({value.length} chars) to {store.filePath path}"
        let more := attachPieces vars written rest
        ⟨more.outcome.map (('@' :: (store.filePath path).toList) ++ ·), more.store,
          line :: more.log⟩
    else
      let more := attachPieces vars store rest
      ⟨more.outcome.map (value ++ ·), more.store, more.log⟩

/-- Fills a template, storing long values in files. -/
def attach (vars : Variables) (store : Attachments) (template : String) : Attached :=
  attachPieces vars store (Template.pieces template.toList)

end Variables

end Runbook
