import Runbook.KeyMap
import Runbook.Shell.Arithmetic
import Runbook.Shell.Fields
import Runbook.Shell.Machine
import Runbook.Shell.OptionCursor
import Runbook.Shell.Signal

/-!
# Expansion of words

What becomes of the words of a command before it runs: parameters, outputs of commands and
expressions are put in, the result is split at blanks, and patterns turn into paths.

* `ShellState` is the state of a shell;
* `expandParts` puts everything in, and `expandWord` also splits and looks for paths;
* `expandText` is the text of a word that is not split.
-/

namespace Runbook.Shell

/-- The state of a shell. -/
structure ShellState where
  /-- The files, channels and clock. -/
  machine : Machine
  /-- What the script is called. -/
  name : String
  /-- Its arguments. -/
  args : List String
  /-- The part of the script that is run, if it is not in the script itself. -/
  part : Option String
  /-- The variables. -/
  vars : KeyMap String
  /-- The variables that programs see. -/
  exported : KeyMap Unit
  /-- The variables that cannot change. -/
  fixed : KeyMap Unit
  /-- The variables that the function has made its own, with their values outside of it; none
  outside of functions. -/
  outer : Option (List (String × Option String))
  /-- The functions. -/
  functions : KeyMap Command
  /-- The exit code of the last command. -/
  status : Nat
  /-- The exit code of the last command whose output was put in. -/
  putInStatus : Option Nat
  /-- Whether a command that fails ends the script. -/
  stopOnFailure : Bool
  /-- Whether a variable without a value is a mistake. -/
  refuseUnset : Bool
  /-- Whether commands are written down before they run. -/
  traced : Bool
  /-- Whether patterns stand for themselves. -/
  plainPatterns : Bool
  /-- What is done on signals, and at the end. -/
  traps : Traps
  /-- What the shell does on signals, if the command runs in a process of its own. -/
  outside : Option Traps
  /-- The signals that have arrived, and wait for the end of a command. -/
  arrived : List Signal
  /-- How far the options among the arguments have been read. -/
  cursor : OptionCursor
  /-- What descriptors lead to since the script has changed them. -/
  lasting : Descriptors
  /-- The numbers and exit codes of the commands in the background, the last one first. -/
  jobs : List (Nat × Nat)
  /-- The number of the process. -/
  processId : Nat
  /-- How many calls of functions the command is in. -/
  calls : Nat
  /-- How many loops the command is in. -/
  loops : Nat
  /-- The signal that the process was ended by. -/
  killed : Option Nat
  /-- When the time is up. -/
  deadline : Nat
  /-- The script. -/
  script : List Char

namespace ShellState

/-- Changes the files, channels and clock. -/
def onMachine (s : ShellState) (f : Machine → Machine) : ShellState :=
  { s with machine := f s.machine }

/-- The variable that says how far the options among the arguments have been read. -/
def cursorName : String := "OPTIND"

/-- Gives a variable a value. -/
def assign (s : ShellState) (name value : String) : ShellState :=
  { s with
    vars := s.vars.insert name value
    cursor := if name = cursorName then .at_ ((Decimal.readNat? value.toList).getD 1)
      else s.cursor }

/-- Takes other arguments, of which no options have been read. -/
def withArgs (s : ShellState) (args : List String) : ShellState :=
  { s with args, cursor := .start }

/-- How what is told of mistakes begins. -/
def partTitle (s : ShellState) : String := s.part.elim "" (· ++ ": ")

/-- The text of the arguments. -/
def allArgs (s : ShellState) : String := " ".intercalate s.args

/-- The letters of the ways that are set. -/
def letters (s : ShellState) : String :=
  (if s.refuseUnset then "u" else "") ++ (if s.traced then "x" else "") ++
    (if s.plainPatterns then "f" else "") ++ (if s.stopOnFailure then "e" else "")

/-- The value of a parameter. -/
def value? (s : ShellState) (name : String) : Option String :=
  match name with
  | "?" => some (toString s.status)
  | "#" => some (toString s.args.length)
  | "$" => some (toString s.processId)
  | "!" => s.jobs.head?.map (fun (id, _) => toString id)
  | "-" => some (s.letters)
  | "0" => some s.name
  | "@" | "*" => if s.args.isEmpty then none else some s.allArgs
  | name =>
    match name.toNat? with
    | some n => s.args[n - 1]?
    | none => s.vars.find? name

/-- The characters at which words are split. -/
def separators (s : ShellState) : List Char := ((s.value? "IFS").getD " \t\n").toList

end ShellState

/-- Runs a command for its output, without the line ends at its end. -/
abbrev PutIn := Command → ShellState → List Char × ShellState

/-- An expansion, which may find a mistake. -/
abbrev Expand (α : Type) := ExceptT String (StateM ShellState) α

/-- A text put in, inside quotes or not. -/
def textPieces (quoted : Bool) (text : List Char) : List Piece :=
  if !quoted then .seam :: text.map (fun c => .cell ⟨c, false⟩ true)
  else if text.isEmpty then [.nothing]
  else text.map (fun c => .cell ⟨c, true⟩ false)

/-- The arguments put in one by one. -/
def argPieces (quoted : Bool) : List String → List Piece
  | [] => []
  | [last] => textPieces quoted last.toList
  | first :: rest =>
    textPieces quoted first.toList ++
      (if quoted then .boundary else .cell ⟨' ', false⟩ true) :: argPieces quoted rest

/-- The pieces as a text; arguments have a blank between them. -/
def pieceText : List Piece → List Char
  | [] => []
  | .cell cell _ :: rest => cell.char :: pieceText rest
  | .boundary :: rest => ' ' :: pieceText rest
  | .seam :: rest | .nothing :: rest => pieceText rest

/-- The pieces as a pattern. -/
def piecePattern (pieces : List Piece) : List Cell :=
  pieces.filterMap (fun
    | .cell cell _ => some cell
    | _ => none)

/-- Whether a parameter counts as having a value. -/
def hasValue (orEmpty : Bool) (value : Option String) : Bool :=
  value.any (fun v => !(orEmpty && v.isEmpty))

/-- A text without its longest or shortest beginning that matches a pattern. -/
def trimFront (longest : Bool) (pattern : List Cell) (text : List Char) : List Char :=
  let lengths := List.range (text.length + 1)
  match (if longest then lengths.reverse else lengths).find?
      (fun n => wildcardMatches pattern (text.take n)) with
  | some n => text.drop n
  | none => text

/-- A text without its longest or shortest end that matches a pattern. -/
def trimBack (longest : Bool) (pattern : List Cell) (text : List Char) : List Char :=
  let lengths := List.range (text.length + 1)
  match (if longest then lengths else lengths.reverse).find?
      (fun n => wildcardMatches pattern (text.drop n)) with
  | some n => text.take n
  | none => text

/-- The value of a parameter that may be a mistake to have none. -/
def valueOrFault (name : String) : Expand (List Char) := do
  let s ← get
  match s.value? name with
  | some v => return v.toList
  | none =>
    if s.refuseUnset && name != "@" && name != "*" then throw s!"{name}: parameter not set"
    else return []

/-- Gives a variable a value, which some cannot take. -/
def setVar (name value : String) : Expand Unit := do
  let s ← get
  if s.fixed.contains name then throw s!"{name}: is read only"
  set (s.assign name value)

mutual

/-- Puts everything in that the parts of a word stand for. -/
def expandParts (putIn : PutIn) : Word → Expand (List Piece)
  | [] => return []
  | part :: rest => do
    let first ← expandPart putIn part
    let more ← expandParts putIn rest
    return first ++ more

/-- Puts in what one part stands for. -/
def expandPart (putIn : PutIn) : Part → Expand (List Piece)
  | .char c quoted => return [.cell ⟨c, quoted⟩ false]
  | .empty => return [.nothing]
  | .output command quoted => do
    let (text, s) := putIn command (← get)
    set s
    return textPieces quoted text
  | .sum expr quoted => do
    let text := String.ofList (pieceText (← expandParts putIn expr))
    let s ← get
    match evalSum s.value? text with
    | .ok (n, changed) => do
      changed.reverse.forM (fun (name, value) => setVar name (toString value))
      return textPieces quoted (toString n).toList
    | .error fault => throw (fault.message text)
  | .param p quoted => expandParam putIn p quoted

/-- Puts in what is taken of a parameter. -/
def expandParam (putIn : PutIn) : Param → Bool → Expand (List Piece)
  | .value "@", quoted => return argPieces quoted (← get).args
  | .value "*", quoted => do
    let s ← get
    if quoted then
      let mark := String.ofList (s.separators.take 1)
      return textPieces true (mark.intercalate s.args).toList
    else return argPieces false s.args
  | .value name, quoted => return textPieces quoted (← valueOrFault name)
  | .length name, quoted =>
    return textPieces quoted (toString (Utf8.length (← valueOrFault name))).toList
  | .orElse name orEmpty word, quoted => do
    let value := (← get).value? name
    if hasValue orEmpty value then return textPieces quoted (value.getD "").toList
    else expandParts putIn word
  | .assign name orEmpty word, quoted => do
    let value := (← get).value? name
    if hasValue orEmpty value then return textPieces quoted (value.getD "").toList
    else
      let text := pieceText (← expandParts putIn word)
      setVar name (String.ofList text)
      return textPieces quoted text
  | .instead name orEmpty word, quoted => do
    if hasValue orEmpty ((← get).value? name) then expandParts putIn word
    else return textPieces quoted []
  | .demand name orEmpty word, quoted => do
    let value := (← get).value? name
    if hasValue orEmpty value then return textPieces quoted (value.getD "").toList
    else
      let text := String.ofList (pieceText (← expandParts putIn word))
      let usual := if orEmpty then "parameter not set or null" else "parameter not set"
      throw (name ++ ": " ++ (if text.isEmpty then usual else text))
  | .unknown, _ => throw "Bad substitution"
  | .trim name atFront longest word, quoted => do
    let text ← valueOrFault name
    let pattern := piecePattern (← expandParts putIn word)
    return textPieces quoted
      (if atFront then trimFront longest pattern text else trimBack longest pattern text)

end

/-! ## Words -/

/-- The paths that a word stands for if it is a pattern, or else its text. -/
def fieldTexts (fs : FileSystem) (field : List Cell) : List String :=
  if hasWildcard field then
    match wildcardPaths fs field with
    | [] => [String.ofList (cellText field)]
    | paths => paths
  else [String.ofList (cellText field)]

/-- The words that a word turns into. -/
def expandWord (putIn : PutIn) (word : Word) : Expand (List String) := do
  let pieces ← expandParts putIn word
  let s ← get
  let fields := splitFields s.separators pieces
  if s.plainPatterns then return fields.map (fun field => String.ofList (cellText field))
  else return fields.flatMap (fieldTexts s.machine.files)

/-- The words that words turn into. -/
def expandWords (putIn : PutIn) : List Word → Expand (List String)
  | [] => return []
  | word :: rest => do
    let first ← expandWord putIn word
    let more ← expandWords putIn rest
    return first ++ more

/-- The text of a word that is not split. -/
def expandText (putIn : PutIn) (word : Word) : Expand String := do
  return String.ofList (pieceText (← expandParts putIn word))

/-- The pattern that a word is. -/
def expandPattern (putIn : PutIn) (word : Word) : Expand (List Cell) := do
  return piecePattern (← expandParts putIn word)

end Runbook.Shell
