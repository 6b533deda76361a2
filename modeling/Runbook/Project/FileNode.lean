import Runbook.KeyMap
import Runbook.Project.Path
import Runbook.Text.Utf8

/-!
# Files

A tree of directories and files, and walks in it.

* `FileNode` is a file or a directory;
* `FileSystem` is a tree with the directory in which relative paths begin;
* `FileSystem.locate` walks along a path; `isFile`, `isDirectory` and `readText` build on it;
* `FileSystem.write`, `makeDirectory` and `remove` change the tree as programs may, `put` and
  `clear` in any case.
-/

namespace Runbook

/-- A file or a directory. -/
inductive FileNode where
  /-- A file; it may be one that can be started. -/
  | file (content : List UInt8) (executable : Bool)
  /-- A directory; the names rise. -/
  | directory (entries : List (String × FileNode))
  deriving Inhabited

/-- Why a path cannot be followed or used. -/
inductive PathFault where
  /-- There is no such file or directory. -/
  | notFound
  /-- There is no permission. -/
  | denied
  /-- There is something already. -/
  | exists
  /-- A component is not a directory. -/
  | notDirectory
  /-- It is a directory. -/
  | isDirectory
  /-- A name is too long. -/
  | nameTooLong
  /-- The directory is not empty. -/
  | notEmpty
  deriving DecidableEq, Repr

/-- What the fault is called. -/
def PathFault.reason : PathFault → String
  | .notFound => "No such file or directory"
  | .denied => "Permission denied"
  | .exists => "File exists"
  | .notDirectory => "Not a directory"
  | .isDirectory => "Is a directory"
  | .nameTooLong => "File name too long"
  | .notEmpty => "Directory not empty"

/-- The number of the fault. -/
def PathFault.code : PathFault → Nat
  | .notFound => 2
  | .denied => 13
  | .exists => 17
  | .notDirectory => 20
  | .isDirectory => 21
  | .nameTooLong => 36
  | .notEmpty => 39

/-- The wording of the fault, with its number. -/
def PathFault.text (fault : PathFault) : String := s!"{fault.reason} (os error {fault.code})"

namespace FileNode

/-- An empty directory. -/
def empty : FileNode := .directory []

/-- The entries of a directory. -/
def entries? : FileNode → Option (List (String × FileNode))
  | .directory entries => some entries
  | .file _ _ => none

/-- Whether the node is a directory. -/
def isDirectory : FileNode → Bool
  | .directory _ => true
  | .file _ _ => false

/-- The node below along names. -/
def get? : FileNode → List String → Option FileNode
  | node, [] => some node
  | .directory entries, name :: rest => (Entries.find? name entries).bind (get? · rest)
  | .file _ _, _ :: _ => none

/-- The node with what lies along names replaced, or taken away; directories that are missing on
the way are made. -/
def set (node : FileNode) (value : Option FileNode) : List String → FileNode
  | [] => value.getD node
  | [name] =>
    match node with
    | .directory entries => .directory (match value with
      | some v => Entries.insert name v entries
      | none => Entries.erase name entries)
    | .file content executable => .file content executable
  | name :: rest =>
    match node with
    | .directory entries =>
      let below := (Entries.find? name entries).getD empty
      .directory (Entries.insert name (set below value rest) entries)
    | .file content executable => .file content executable

end FileNode

/-- A tree of files, and where in it relative paths begin. -/
structure FileSystem where
  /-- The root directory. -/
  root : FileNode
  /-- The names of the directories from the root to the working directory. -/
  workingDir : List String

namespace FileSystem

/-- The most bytes of a name. -/
def nameLimit : Nat := 255

/-- The node at an absolute place. -/
def get? (fs : FileSystem) (place : List String) : Option FileNode := fs.root.get? place

/-- Walks on from a place along components. -/
def walk (fs : FileSystem) : List String → List String → Except PathFault (List String)
  | place, [] => .ok place
  | place, name :: rest =>
    match fs.get? place with
    | none => .error .notFound
    | some (.file _ _) => .error .notDirectory
    | some (.directory entries) =>
      if name == "." then walk fs place rest
      else if name == ".." then walk fs place.dropLast rest
      else if nameLimit < name.utf8ByteSize then .error .nameTooLong
      else match Entries.find? name entries with
        | some _ => walk fs (place ++ [name]) rest
        | none => .error .notFound

/-- Where a walk along a path begins. -/
def startOf (fs : FileSystem) (path : String) : List String :=
  if Path.isAbsolute path then [] else fs.workingDir

/-- The absolute place that a path leads to. -/
def locate (fs : FileSystem) (path : String) : Except PathFault (List String) :=
  if path.isEmpty then .error .notFound
  else fs.walk (fs.startOf path) (Path.components path)

/-- The node that a path leads to. -/
def find? (fs : FileSystem) (path : String) : Option FileNode :=
  match fs.locate path with
  | .ok place => fs.get? place
  | .error _ => none

/-- Whether a path leads to a file. -/
def isFile (fs : FileSystem) (path : String) : Bool :=
  (fs.find? path).any (fun n => !n.isDirectory)

/-- Whether a path leads to a directory. -/
def isDirectory (fs : FileSystem) (path : String) : Bool := (fs.find? path).any (·.isDirectory)

/-- The text of an absolute place. -/
def placeText (place : List String) : String := "/" ++ "/".intercalate place

/-- The absolute form of a path that leads somewhere. -/
def canonical (fs : FileSystem) (path : String) : Except PathFault String :=
  (fs.locate path).map placeText

/-- What a file holds. -/
def readBytes (fs : FileSystem) (path : String) : Except PathFault (List UInt8) :=
  match fs.locate path with
  | .error fault => .error fault
  | .ok place =>
    match fs.get? place with
    | some (.file content _) => .ok content
    | some (.directory _) => .error .isDirectory
    | none => .error .notFound

/-- The text that a file holds, or the wording of why there is none. -/
def readText (fs : FileSystem) (path : String) : Except String String :=
  match fs.readBytes path with
  | .error fault => .error fault.text
  | .ok content =>
    match Utf8.decode? content with
    | some text => .ok text
    | none => .error "stream did not contain valid UTF-8"

/-- The place of a file that is there or could be made: its directory is there. -/
def placeFor (fs : FileSystem) (path : String) : Except PathFault (List String) :=
  match (Path.components path).getLast? with
  | none => .error .isDirectory
  | some name =>
    if name == "." || name == ".." then .error .isDirectory
    else match fs.walk (fs.startOf path) (Path.components path).dropLast with
      | .error fault => .error fault
      | .ok place =>
        match fs.get? place with
        | some (.directory _) =>
          if nameLimit < name.utf8ByteSize then .error .nameTooLong else .ok (place ++ [name])
        | some (.file _ _) => .error .notDirectory
        | none => .error .notFound

/-- Replaces what lies at an absolute place. -/
def set (fs : FileSystem) (place : List String) (node : Option FileNode) : FileSystem :=
  { fs with root := fs.root.set node place }

/-- The names along an absolute path. -/
def placeOf (path : String) : List String := (Path.components path).filter (· != ".")

/-- Puts a node at an absolute path; directories that are missing on the way are made. -/
def put (fs : FileSystem) (path : String) (node : FileNode) : FileSystem :=
  fs.set (placeOf path) (some node)

/-- Takes away what lies at an absolute path. -/
def clear (fs : FileSystem) (path : String) : FileSystem := fs.set (placeOf path) none

/-- Writes a file; one that is there keeps whether it can be started. -/
def write (fs : FileSystem) (path : String) (content : List UInt8) :
    Except PathFault FileSystem := do
  let place ← fs.placeFor path
  match fs.get? place with
  | some (.directory _) => throw .isDirectory
  | some (.file _ executable) => return fs.set place (some (.file content executable))
  | none => return fs.set place (some (.file content false))

/-- Makes a directory. -/
def makeDirectory (fs : FileSystem) (path : String) : Except PathFault FileSystem := do
  let place ← fs.placeFor path
  match fs.get? place with
  | some _ => throw .exists
  | none => return fs.set place (some .empty)

/-- Takes a file away. -/
def remove (fs : FileSystem) (path : String) : Except PathFault FileSystem := do
  let place ← fs.locate path
  match fs.get? place with
  | some (.directory _) => throw .isDirectory
  | _ => return fs.set place none

/-- The same tree, seen from another directory. -/
def inside (fs : FileSystem) (path : String) : Except PathFault FileSystem := do
  let place ← fs.locate path
  match fs.get? place with
  | some (.directory _) => return { fs with workingDir := place }
  | some (.file _ _) => throw .notDirectory
  | none => throw .notFound

end FileSystem

end Runbook
