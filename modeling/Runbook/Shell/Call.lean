import Runbook.KeyMap
import Runbook.Shell.Machine

/-!
# Calls of utilities

What the programs that scripts can call without a path have in common.

* `Call` is what a program is started with, and `Utility` is what it does;
* `readOperands` reads the files among its arguments, and `writeTextLines` writes its output.
-/

namespace Runbook.Shell

/-- What a program is started with. -/
structure Call where
  /-- Its name. -/
  name : String
  /-- Its arguments. -/
  args : List String
  /-- What its descriptors lead to. -/
  fds : Descriptors
  /-- The variables that it sees. -/
  env : KeyMap String

/-- The name without directories. -/
def Call.shortName (call : Call) : String :=
  String.ofList (call.name.toList.reverse.takeWhile (· != '/')).reverse

/-- What a program does: its exit code, and what is changed. -/
abbrev Utility := Call → Machine → Nat × Machine

namespace Utility

/-! ## Arguments and input -/

/-- The options in front, and the operands. -/
def splitOptions (args : List String) : List Char × List String :=
  let isOption (s : String) : Bool := s.length > 1 && s.toList.head? = some '-' && s ≠ "--"
  let operands := args.dropWhile isOption
  ((args.takeWhile isOption).flatMap (fun s => s.toList.drop 1),
    if operands.head? = some "--" then operands.drop 1 else operands)

/-- The options in an argument, each with its own argument if it takes one, and whether that is the
next argument. -/
def letterOptions (takesArg : List Char) (next : String) : List Char → List (Char × String) × Bool
  | [] => ([], false)
  | c :: cs =>
    if takesArg.contains c then
      if cs.isEmpty then ([(c, next)], true) else ([(c, String.ofList cs)], false)
    else
      let (more, used) := letterOptions takesArg next cs
      ((c, "") :: more, used)

/-- The options, some of which take an argument, and the operands. -/
def parseOptions (takesArg : List Char) : List String → List (Char × String) × List String
  | [] => ([], [])
  | [arg] =>
    match arg.toList with
    | '-' :: c :: cs => ((letterOptions takesArg "" (c :: cs)).1, [])
    | _ => ([], [arg])
  | arg :: next :: rest =>
    if arg = "--" then ([], next :: rest)
    else match arg.toList with
      | '-' :: c :: cs =>
        let (found, used) := letterOptions takesArg next (c :: cs)
        let (more, operands) :=
          if used then parseOptions takesArg rest else parseOptions takesArg (next :: rest)
        (found ++ more, operands)
      | _ =>
        let (more, operands) := parseOptions takesArg (next :: rest)
        (more, arg :: operands)

/-- The last argument of an option. -/
def optionArg? (options : List (Char × String)) (c : Char) : Option String :=
  (options.reverse.find? (fun (letter, _) => letter == c)).map (·.2)

/-- Says what is wrong. -/
def complain (call : Call) (m : Machine) (text : String) : Machine :=
  m.complain call.fds s!"{call.name}: {text}"

/-- Says what is wrong with the arguments. -/
def refuse (call : Call) (m : Machine) (text : String) : Nat × Machine :=
  (1, complain call m s!"{text}\nTry '{call.name} --help' for more information.")

/-- What programs say about an operand that they cannot read. -/
def unreadable (call : Call) (path : String) (fault : PathFault) : String :=
  let reason := fault.reason
  match call.shortName, fault with
  | "head", .isDirectory | "tail", .isDirectory => s!"error reading '{path}': {reason}"
  | "head", _ | "tail", _ => s!"cannot open '{path}' for reading: {reason}"
  | "sort", .isDirectory => s!"read failed: {path}: {reason}"
  | "sort", _ => s!"cannot read: {path}: {reason}"
  | "rev", _ => s!"cannot open {path}: {reason}"
  | "sed", _ => s!"can't read {path}: {reason}"
  | _, _ => s!"{path}: {reason}"

/-- What a file holds; a hyphen is the input. -/
def readOperand (call : Call) (path : String) (m : Machine) :
    Except PathFault (List UInt8) × Machine :=
  if path = "-" then
    let (bytes, m) := m.readAll (Machine.target call.fds 0)
    (.ok bytes, m)
  else if path = Machine.nullPath then (.ok [], m)
  else if path = Machine.zeroPath then (.ok Machine.zeros, m)
  else (m.files.readBytes path, m)

/-- Reads the operands, or the input if there are none; those that cannot be read are reported. -/
def readOperands (call : Call) : List String → Machine → List (String × List UInt8) × Bool × Machine
  | [], m => ([], true, m)
  | path :: rest, m =>
    match readOperand call path m with
    | (.ok bytes, m) =>
      let (more, fine, m) := readOperands call rest m
      ((path, bytes) :: more, fine, m)
    | (.error fault, m) =>
      let m := complain call m (unreadable call path fault)
      let (more, _, m) := readOperands call rest m
      (more, false, m)

/-- The operands, or the input. -/
def orInput (operands : List String) : List String := if operands.isEmpty then ["-"] else operands

/-- The exit code of a program that worked or not. -/
def codeOf (fine : Bool) : Nat := if fine then 0 else 1

/-- Splits bytes into lines without their ends. -/
def byteLines : List UInt8 → List (List UInt8)
  | [] => []
  | b :: rest =>
    if b = 10 then [] :: byteLines rest
    else match byteLines rest with
      | [] => [[b]]
      | line :: more => (b :: line) :: more

/-- Lines with their ends. -/
def joinLines (ls : List (List UInt8)) : List UInt8 := ls.flatMap (· ++ [10])

/-- The lines of bytes as text. -/
def textLines (bytes : List UInt8) : List String := (byteLines bytes).map Utf8.decodeLossy

/-- Whether bytes end inside a line. -/
def endsInLine (bytes : List UInt8) : Bool := bytes.getLast?.any (· != 10)

/-- Reads the operands as lines of text. -/
def readTextLines (call : Call) (operands : List String) (m : Machine) :
    List String × Bool × Machine :=
  let (parts, fine, m) := readOperands call (orInput operands) m
  ((parts.map (·.2)).flatMap textLines, fine, m)

/-- Writes lines of text. -/
def writeTextLines (call : Call) (m : Machine) (ls : List String) : Machine :=
  m.writeTo call.fds 1 (joinLines (ls.map Utf8.encode))

/-- A number with blanks before it. -/
def rightAlign (width n : Nat) : String :=
  let ds := toString n
  String.ofList (List.replicate (width - ds.length) ' ') ++ ds

end Utility

end Runbook.Shell
