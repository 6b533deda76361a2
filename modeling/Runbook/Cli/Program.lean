import Runbook.Cli.Arguments
import Runbook.EnvFile

/-!
# The program

All that the program does, from its arguments to its exit code.

* `withEnvFiles` adds the environment files of a project to an environment;
* `perform` does what a command line asks for;
* `program` reads a command line and does what it asks for.
-/

namespace Runbook.Cli

/-- What the program leaves behind. -/
structure Ending where
  /-- What it prints. -/
  output : String
  /-- What it prints about what went wrong. -/
  errors : String
  /-- The exit code. -/
  code : Nat
  /-- The files. -/
  files : FileSystem

/-- The names of the files with variables for the environment; the first one counts most. -/
def envFileNames : List String := [".env.local", ".env"]

/-- Adds the variables of a file, if it is there. -/
def withEnvFile (files : FileSystem) (env : KeyMap String) (path : String) : KeyMap String :=
  match files.readBytes path with
  | .ok content => EnvFile.load content env
  | .error _ => env

/-- Adds the environment files of a project. -/
def withEnvFiles (files : FileSystem) (projectDir : String) (env : KeyMap String) :
    KeyMap String :=
  (envFileNames.map (Path.join projectDir)).foldl (withEnvFile files) env

/-- What the program shows about how it is called. -/
def usage : String :=
  linesText ["Usage: cadence [--project <DIR>] [--port <PORT>] [-v] <COMMAND>", "",
    "Commands:", "  run <WORKFLOW> [--var <KEY=VALUE>]... [--json]", "  validate <WORKFLOW>",
    "  list"]

/-- The name and the version of the program. -/
def versionLine : String := "cadence 0.1.0"

/-- How the program ends after a command. -/
def endingOf (shown : Shown Unit) (files : FileSystem) : Ending :=
  match shown.result with
  | .ok () => ⟨shown.text, "", 0, files⟩
  | .error message => ⟨shown.text, linesText [s!"Error: {message}"], 1, files⟩

/-- Does what a command line asks for. -/
def perform (request : Request) (env : KeyMap String) (files : FileSystem)
    (directory time : String) : Ending :=
  let projectDir := request.projectDir
  let site : Site := .start files (withEnvFiles files projectDir env).entries ()
  match request.action with
  | none => ⟨usage ++ "\n", "", 0, files⟩
  | some .version => ⟨linesText [versionLine], "", 0, files⟩
  | some .list => endingOf (list site projectDir) files
  | some (.validate selector) => endingOf (validate site projectDir selector) files
  | some (.run selector options) =>
    let (shown, site) := run site projectDir selector options directory time
    endingOf shown site.files

/-- Reads a command line and does what it asks for. -/
def program (words : List String) (env : KeyMap String) (files : FileSystem)
    (directory time : String) : Ending :=
  match Request.ofArguments env words with
  | .ok request => perform request env files directory time
  | .error message => ⟨"", linesText [s!"error: {message}"] ++ usage, 2, files⟩

end Runbook.Cli
