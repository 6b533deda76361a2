import Runbook.Cli.Program
import Std.Time

/-!
# The executable

Reads the files below the working directory and below the project directory, lets the program work
on them, writes back what it changed, and prints what it has to say.
-/

namespace Runbook.Main

/-- The environment variables that the program looks at. -/
def variableNames : List String :=
  ["PATH", "HOME", "CADENCE_PROJECT", "CADENCE_CALLBACK_PORT", "CADENCE_MAX_SHARED_DEPTH",
    "CADENCE_COMMAND_TIMEOUT_SECS", "CADENCE_IDLE_POLL_MS", "CADENCE_IDLE_QUIET_SECS",
    "CADENCE_AGENT_COMMAND"]

/-- The environment. -/
def environment : IO (KeyMap String) := do
  let found ← variableNames.mapM (fun name => do
    return (← IO.getEnv name).map (name, ·))
  return .ofList (found.filterMap id)

/-- Whether a file begins as scripts do. -/
def startsScript (content : List UInt8) : Bool := content.take 2 == [35, 33]

/-- Reads a file or a directory.  What cannot be read counts as an empty file, and links to
directories are passed over. -/
partial def readNode (path : String) : IO FileNode := do
  let directory ← IO.FS.realPath path
  if ← directory.isDir then
    let mut entries : KeyMap FileNode := .empty
    for entry in ← directory.readDir do
      let isLink := (← IO.FS.realPath entry.path) != entry.path
      if !(isLink && (← entry.path.isDir)) then
        entries := entries.insert entry.fileName (← readNode entry.path.toString)
    return .directory entries.entries
  else
    try
      let content := (← IO.FS.readBinFile path).toList
      return .file content (startsScript content)
    catch _ => return .file [] false

/-- Puts what lies at an absolute path into a tree, if something does. -/
def addPath (root : FileNode) (path : String) : IO FileNode := do
  try
    return root.set (some (← readNode path)) (FileSystem.placeOf path)
  catch _ => return root

/-- Writes what a program changed. -/
partial def writeChanges (path : String) (before : Option FileNode) (after : FileNode) :
    IO Unit := do
  match after with
  | .directory entries =>
    if !(before.any (·.isDirectory)) then IO.FS.createDirAll path
    let old := (before.bind FileNode.entries?).getD []
    for (name, node) in entries do
      writeChanges (Path.join path name) (Entries.find? name old) node
    for (name, node) in old do
      if (Entries.find? name entries).isNone && !node.isDirectory then
        IO.FS.removeFile (Path.join path name)
  | .file content _ =>
    let same := match before with
      | some (.file old _) => old == content
      | _ => false
    if !same then IO.FS.writeBinFile path (ByteArray.mk content.toArray)

/-- The time. -/
def currentTime : IO String := do
  let now ← Std.Time.Timestamp.now
  return (Std.Time.DateTime.ofTimestamp now Std.Time.TimeZone.ZoneRules.UTC).toISO8601String

/-- Runs the program in a working directory. -/
def runIn (directory : String) (words : List String) : IO UInt32 := do
  let env ← environment
  let project := match Cli.Request.ofArguments env words with
    | .ok request => Path.join directory request.projectDir
    | .error _ => directory
  let root ← addPath (← addPath .empty directory) project
  let files : FileSystem := ⟨root, FileSystem.placeOf directory⟩
  let values := Path.join directory ".cadence/values"
  let ending := Cli.program words env files values (← currentTime)
  writeChanges "/" (some root) ending.files.root
  IO.print ending.output
  IO.eprint ending.errors
  return UInt32.ofNat ending.code

end Runbook.Main

/-- The program. -/
def main (words : List String) : IO UInt32 := do
  Runbook.Main.runIn (← IO.currentDir).toString words
