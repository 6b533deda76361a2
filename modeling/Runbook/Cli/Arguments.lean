import Runbook.Cli.Commands
import Runbook.Number.Decimal

/-!
# Arguments

The words of a command line, read into what they ask for.

* `Request` is what a command line asks for;
* `Request.ofArguments` reads the words; some options can be given by environment variables too.
-/

namespace Runbook.Cli

/-- What to do. -/
inductive Action where
  /-- Run a workflow. -/
  | run (selector : String) (options : RunOptions)
  /-- Check a workflow. -/
  | validate (selector : String)
  /-- List the workflows. -/
  | list
  /-- Tell the version of the program. -/
  | version
  deriving DecidableEq, Repr

/-- What a command line asks for. -/
structure Request where
  /-- The project directory. -/
  projectDir : String
  /-- What to do; without it, nothing but help. -/
  action : Option Action
  deriving DecidableEq, Repr

/-- Options that may stand before the command as well as after it. -/
structure Common where
  /-- The project directory. -/
  project : Option String := none
  /-- The port. -/
  port : Option String := none
  /-- Whether more is to be logged. -/
  verbose : Bool := false
  deriving DecidableEq, Repr

/-- What has been read of a command line. -/
structure Seen where
  /-- The options before the command. -/
  before : Common := {}
  /-- The command. -/
  command : Option String := none
  /-- The options after the command. -/
  after : Common := {}
  /-- The workflow. -/
  selector : Option String := none
  /-- The overrides. -/
  overrides : List String := []
  /-- Whether the report is to be JSON. -/
  json : Bool := false
  /-- Whether the version is asked for, and nothing else counts. -/
  version : Bool := false
  deriving DecidableEq, Repr

/-- The message about a word that does not belong there. -/
def unexpected (word : String) : String := s!"unexpected argument '{word}' found"

/-- The message about a value that is missing. -/
def valueMissing (option : String) : String := s!"a value is required for '{option}'"

/-- The message about an option that is given twice. -/
def givenTwice (option : String) : String := s!"the argument '{option}' cannot be used twice"

/-- Whether a word is an option rather than a value. -/
def isOption (word : String) : Bool :=
  match word.toList with
  | '-' :: _ :: _ => true
  | _ => false

namespace Seen

/-- The commands. -/
def commands : List String := ["run", "validate", "list"]

/-- The options on this side of the command. -/
def common (s : Seen) : Common := if s.command.isSome then s.after else s.before

/-- Changes the options on this side of the command. -/
def withCommon (s : Seen) (common : Common) : Seen :=
  if s.command.isSome then { s with after := common } else { s with before := common }

/-- Takes a word in that is no option. -/
def takeWord (s : Seen) (word : String) : Except String Seen :=
  match s.command with
  | none =>
    if commands.contains word then .ok { s with command := some word }
    else .error s!"unrecognized subcommand '{word}'"
  | some command =>
    if command = "list" || s.selector.isSome then .error (unexpected word)
    else .ok { s with selector := some word }

/-- Takes words in that are no options, whatever they look like. -/
def takeWords (s : Seen) (words : List String) : Except String Seen :=
  match s.command, words with
  | none, word :: _ => .error (unexpected word)
  | _, words => words.foldlM takeWord s

/-- Asks for more to be logged. -/
def takeVerbose (s : Seen) : Except String Seen :=
  if s.common.verbose then .error (givenTwice "--verbose")
  else .ok (s.withCommon { s.common with verbose := true })

/-- Takes the letters of switches in, up to one that asks for the version; only before the command
one does. -/
def takeLetters : Seen → List Char → Except String Seen
  | s, [] => .ok s
  | s, 'v' :: rest => do takeLetters (← s.takeVerbose) rest
  | s, c :: rest =>
    if c = 'V' && s.command.isNone then .ok { s with version := true }
    else .error (unexpected (String.ofList ('-' :: c :: rest)))

/-- Takes a switch in. -/
def takeSwitch (s : Seen) (word : String) : Except String Seen :=
  match word.toList with
  | '-' :: '-' :: _ =>
    if word = "--verbose" then s.takeVerbose
    else if word = "--version" && s.command.isNone then .ok { s with version := true }
    else if word = "--json" && s.command = some "run" then
      if s.json then .error (givenTwice "--json") else .ok { s with json := true }
    else .error (unexpected word)
  | _ :: letters => s.takeLetters letters
  | [] => .error (unexpected word)

/-- Takes an option with its value in. -/
def takeOption (s : Seen) (option value : String) : Except String Seen :=
  if option = "--var" then .ok { s with overrides := s.overrides ++ [value] }
  else if value.isEmpty then .error (valueMissing option)
  else if option = "--project" then
    if s.common.project.isSome then .error (givenTwice option)
    else .ok (s.withCommon { s.common with project := some value })
  else if s.common.port.isSome then .error (givenTwice option)
  else .ok (s.withCommon { s.common with port := some value })

/-- Whether a word is an option that has a value. -/
def hasValue (s : Seen) (word : String) : Bool :=
  word = "--project" || word = "--port" || (word = "--var" && s.command = some "run")

/-- An option and its value in one word, with an equals sign between them. -/
def joined? (s : Seen) (word : String) : Option (String × String) :=
  match splitAtEquals? word.toList with
  | some (option, value) =>
    if s.hasValue (String.ofList option) then some (String.ofList option, String.ofList value)
    else none
  | none => none

/-- Takes words in, up to one that asks for the version. -/
def takeAll : Seen → List String → Except String Seen
  | s, [] => .ok s
  | s, "--" :: rest => s.takeWords rest
  | s, word :: rest =>
    match s.joined? word with
    | some (option, value) => do takeAll (← s.takeOption option value) rest
    | none =>
      if s.hasValue word then
        match rest with
        | value :: rest =>
          if isOption value then .error (valueMissing word)
          else do takeAll (← s.takeOption word value) rest
        | [] => .error (valueMissing word)
      else if isOption word then do
        let s ← s.takeSwitch word
        if s.version then return s else takeAll s rest
      else do takeAll (← s.takeWord word) rest

/-- The values of an option that count, the one that counts most first: the one after the command,
the one before it, and that of the environment. -/
def values (s : Seen) (option : Common → Option String) (env : Option String) : List String :=
  (option s.after).toList ++ (option s.before).toList ++ env.toList

/-- Whether a value of the environment is looked at: not if the option is given wherever it may
be. -/
def looksAtEnv (s : Seen) (option : Common → Option String) : Bool :=
  (option s.before).isNone || (s.command.isSome && (option s.after).isNone)

/-- The value of an option for which `read` understands values.  All values that are looked at have
to be understood. -/
def value? {α : Type} (s : Seen) (name : String) (option : Common → Option String)
    (env : Option String) (read : String → Option α) : Except String (Option α) := do
  let understood (text : String) : Except String α :=
    match read text with
    | some a => .ok a
    | none => .error s!"invalid value '{text}' for '{name}'"
  let env := if s.looksAtEnv option then env else none
  let all ← (s.values option env).mapM understood
  return all.head?

/-- The port, which fits in sixteen bits. -/
def port? (s : Seen) (env : KeyMap String) : Except String (Option Nat) :=
  s.value? "--port" (·.port) (env.find? "CADENCE_CALLBACK_PORT")
    (fun text => Decimal.readBits? 16 text.toList)

/-- The project directory, which has a name. -/
def project? (s : Seen) (env : KeyMap String) : Except String (Option String) :=
  s.value? "--project" (·.project) (env.find? "CADENCE_PROJECT")
    (fun text => if text.isEmpty then none else some text)

/-- What the words ask for. -/
def action? (s : Seen) (port : Option Nat) : Except String (Option Action) :=
  match s.command, s.selector with
  | none, _ => .ok none
  | some "list", _ => .ok (some .list)
  | some "run", some selector => .ok (some (.run selector ⟨s.overrides, port, s.json⟩))
  | some _, some selector => .ok (some (.validate selector))
  | some _, none => .error "a workflow is required"

end Seen

/-- Reads the words of a command line in an environment. -/
def Request.ofArguments (env : KeyMap String) (words : List String) : Except String Request := do
  let seen ← Seen.takeAll {} words
  if seen.version then return ⟨".", some .version⟩
  let project ← seen.project? env
  let port ← seen.port? env
  return ⟨project.getD ".", ← seen.action? port⟩

end Runbook.Cli
