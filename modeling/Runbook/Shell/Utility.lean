import Runbook.Shell.Calculation
import Runbook.Shell.Cut
import Runbook.Shell.Edit.Utility
import Runbook.Shell.LineTools
import Runbook.Shell.Search

/-!
# Utilities

The programs that scripts can call without a path.

* programs on paths, such as `ls` and `mkdir`;
* programs that wait and count;
* `Utility.all` has all programs by name, and `Utility.find?` finds one.
-/

namespace Runbook.Shell

namespace Utility

/-! ## Programs on paths -/

/-- A path without slashes at its end. -/
def trimSlashes (path : String) : List Char :=
  match path.toList.reverse.dropWhile (· == '/') with
  | [] => if path.isEmpty then [] else ['/']
  | r => r.reverse

/-- Runs a program that needs an operand. -/
def needing (what : String) (run : Utility) : Utility := fun call m =>
  if (splitOptions call.args).2.isEmpty then refuse call m s!"missing {what}" else run call m

/-- Names the last component of a path. -/
def basename : Utility := needing "operand" fun call m =>
  let name := ((trimSlashes (call.args.head?.getD "")).reverse.takeWhile (· != '/')).reverse
  let name := if name.isEmpty && !(call.args.head?.getD "").isEmpty then ['/'] else name
  let suffix := ((call.args[1]?).getD "").toList
  let name :=
    if suffix.isSuffixOf name && name ≠ suffix then name.take (name.length - suffix.length)
    else name
  (0, m.say call.fds (String.ofList name ++ "\n"))

/-- Drops the last component of a path. -/
def dirname : Utility := needing "operand" fun call m =>
  let trimmed := trimSlashes (call.args.head?.getD "")
  let dir := (trimmed.reverse.dropWhile (· != '/')).reverse
  let text := if dir.isEmpty then "." else String.ofList (trimSlashes (String.ofList dir))
  (0, m.say call.fds (text ++ "\n"))

/-- The names in a directory, those with a dot in front only if they are asked for. -/
def visibleNames (options : List Char) (entries : List (String × FileNode)) : List String :=
  let names := (entries.map (·.1)).filter (fun n =>
    options.contains 'a' || options.contains 'A' || n.toList.head? ≠ some '.')
  if options.contains 'a' then "." :: ".." :: names else names

/-- Lists directories. -/
def ls : Utility := fun call m =>
  let (options, operands) := splitOptions call.args
  let operands := if operands.isEmpty then ["."] else operands.mergeSort (fun a b => !(b < a))
  let (missing, there) := operands.partition (fun path => (m.files.find? path).isNone)
  let m := missing.foldl (fun m path =>
    let fault := match m.files.locate path with
      | .error fault => fault
      | .ok _ => .notFound
    complain call m s!"cannot access '{path}': {fault.reason}") m
  let (dirs, files) := there.partition (fun path =>
    m.files.isDirectory path && !options.contains 'd')
  let block (path : String) : List String :=
    (if operands.length > 1 then [s!"{path}:"] else []) ++
      visibleNames options (((m.files.find? path).bind FileNode.entries?).getD [])
  let blocks := (if files.isEmpty then [] else [files]) ++ dirs.map block
  let lines := [""].intercalate blocks
  (if missing.isEmpty then 0 else 2, writeTextLines call m lines)

/-- Does something with each operand; what goes wrong is reported. -/
def forEach (call : Call) (operands : List String)
    (step : FileSystem → String → Except String FileSystem) (m : Machine) : Nat × Machine :=
  let (fine, m) := operands.foldl (fun (acc : Bool × Machine) path =>
    match step acc.2.files path with
    | .ok files => (acc.1, { acc.2 with files })
    | .error text => (false, complain call acc.2 text)) (true, m)
  (codeOf fine, m)

/-- The directories on the way along a path, the path among them. -/
def pathsAlong (path : String) : List String :=
  let start := if Path.isAbsolute path then "/" else ""
  ((Path.components path).foldl (fun (acc : List String × String) name =>
    let here := if acc.2.isEmpty || acc.2 = "/" then acc.2 ++ name else acc.2 ++ "/" ++ name
    (acc.1 ++ [here], here)) ([], start)).1

/-- Makes directories. -/
def mkdir : Utility := needing "operand" fun call m =>
  let (options, operands) := splitOptions call.args
  forEach call operands (fun fs path =>
    if options.contains 'p' then
      (pathsAlong path).foldlM (fun fs path =>
        if fs.isDirectory path then .ok fs
        else (fs.makeDirectory path).mapError (fun fault =>
          s!"cannot create directory '{path}': {fault.reason}")) fs
    else (fs.makeDirectory path).mapError (fun fault =>
      s!"cannot create directory '{path}': {fault.reason}")) m

/-- Takes files and directories away. -/
def rm : Utility := fun call m =>
  let (options, operands) := splitOptions call.args
  if operands.isEmpty && !options.contains 'f' then refuse call m "missing operand" else
  forEach call operands (fun fs path =>
    match fs.locate path with
    | .error fault =>
      if options.contains 'f' then .ok fs
      else .error s!"cannot remove '{path}': {fault.reason}"
    | .ok place =>
      if fs.isDirectory path && !(options.contains 'r' || options.contains 'R') then
        .error s!"cannot remove '{path}': {PathFault.isDirectory.reason}"
      else .ok (fs.set place none)) m

/-- Takes empty directories away. -/
def rmdir : Utility := needing "operand" fun call m =>
  forEach call call.args (fun fs path =>
    let refuse (fault : PathFault) : Except String FileSystem :=
      .error s!"failed to remove '{path}': {fault.reason}"
    match fs.locate path with
    | .error fault => refuse fault
    | .ok place =>
      match fs.get? place with
      | some (.directory []) => .ok (fs.set place none)
      | some (.directory _) => refuse .notEmpty
      | _ => refuse .notDirectory) m

/-- Makes empty files where there are none. -/
def touch : Utility := needing "file operand" fun call m =>
  forEach call call.args (fun fs path =>
    if (fs.find? path).isSome then .ok fs
    else (fs.write path []).mapError (fun fault => s!"cannot touch '{path}': {fault.reason}")) m

/-- Where a file goes: into a directory under its own name, or to the path itself. -/
def destination (fs : FileSystem) (source target : String) : String :=
  if fs.isDirectory target then Path.join target ((Path.fileName? source).getD source) else target

/-- Copies or moves a file or a directory. -/
def transfer (remove : Bool) (verb : String) : Utility := fun call m =>
  let (options, operands) := splitOptions call.args
  match operands.reverse with
  | [] => refuse call m "missing file operand"
  | [only] => refuse call m s!"missing destination file operand after '{only}'"
  | target :: _ =>
    forEach call operands.dropLast (fun fs source =>
      match fs.locate source with
      | .error fault => .error s!"cannot stat '{source}': {fault.reason}"
      | .ok place =>
        match fs.get? place, fs.placeFor (destination fs source target) with
        | some node, .ok goal =>
          if node.isDirectory && !remove && !(options.contains 'r' || options.contains 'R') then
            .error s!"-r not specified; omitting directory '{source}'"
          else
            let fs := if remove then fs.set place none else fs
            .ok (fs.set goal (some node))
        | _, .error fault =>
          .error s!"cannot {verb} '{destination fs source target}': {fault.reason}"
        | none, .ok _ => .ok fs) m

/-! ## Others -/

/-- The milliseconds of a duration: a number, and a letter for its unit. -/
def duration? (text : String) : Option Nat := do
  let cs := text.toList
  let number := cs.takeWhile (fun c => Decimal.isDigit c || c == '.')
  let unit ← match cs.drop number.length with
    | [] | ['s'] => some 1000
    | ['m'] => some 60000
    | ['h'] => some 3600000
    | ['d'] => some 86400000
    | _ => none
  if !number.any Decimal.isDigit then none
  let (whole, fraction, rest) := Decimal.splitMantissa number
  if !rest.isEmpty then none
  return Decimal.natOfDigits (whole ++ fraction) * unit / tenTo fraction.length

/-- Lets time go by. -/
def sleep : Utility := needing "operand" fun call m =>
  match call.args.mapM duration? with
  | some ms => (0, { m with clock := m.clock + ms.foldl (· + ·) 0 })
  | none =>
    let unknown := (call.args.find? (fun a => (duration? a).isNone)).getD ""
    refuse call m s!"invalid time interval '{unknown}'"

/-- Counts from one number to another; `fuel` bounds how many there are. -/
def countFrom (step last : Int) : (fuel : Nat) → Int → List String
  | 0, _ => []
  | fuel + 1, n =>
    if (0 < step && n ≤ last) || (step < 0 && last ≤ n) then
      toString n :: countFrom step last fuel (n + step)
    else []

/-- The numbers that operands say: from one, by a step, to another. -/
def countOf? (operands : List String) : Option (Int × Int × Int) :=
  match operands.mapM (fun a => Decimal.readInt64? a.toList) with
  | some [last] => some (1, 1, last)
  | some [first, last] => some (first, 1, last)
  | some [first, step, last] => some (first, step, last)
  | _ => none

/-- Counts: the numbers are written on lines, or with a text between them, or with zeros in front so
that all are as long. -/
def seq : Utility := fun call m =>
  let isOption (a : String) : Bool := ["-s", "-w"].any (fun o => o.toList.isPrefixOf a.toList)
  let (options, more) :=
    if call.args.head?.any isOption then parseOptions ['s'] call.args else ([], call.args)
  match more, countOf? more with
  | [], _ => refuse call m "missing operand"
  | operands, none =>
    match operands[3]?, operands.find? (fun a => (Decimal.readInt64? a.toList).isNone) with
    | some extra, _ => refuse call m s!"extra operand '{extra}'"
    | none, unknown =>
      let unknown := unknown.getD ""
      refuse call m s!"invalid floating point argument: '{unknown}'"
  | _, some (first, step, last) =>
    let ns := countFrom step last ((last - first).natAbs / max step.natAbs 1 + 1) first
    let width := (ns.map String.length).foldl max 0
    let pad (n : String) : String :=
      if (optionArg? options 'w').isSome then
        String.ofList (List.replicate (width - n.length) '0') ++ n
      else n
    let mark := (optionArg? options 's').getD "\n"
    let text := mark.intercalate (ns.map pad)
    (0, if ns.isEmpty then m else m.say call.fds (text ++ "\n"))

/-- Writes a line so often that nothing needs more of them. -/
def yes : Utility := fun call m =>
  let line := Utf8.encode ((if call.args.isEmpty then "y" else " ".intercalate call.args) ++ "\n")
  (0, m.writeTo call.fds 1 ((List.replicate (0x40000 / max line.length 1) line).flatten))

/-- Whether a change of permissions lets a file be started; none if it does not say. -/
def startable? (mode : String) : Option Bool :=
  let cs := mode.toList
  if !cs.isEmpty && cs.all Decimal.isDigit then
    some (cs.any (fun c => (c.toNat - '0'.toNat) % 2 = 1))
  else if !cs.contains 'x' then none
  else if cs.contains '-' then some false
  else some true

/-- Changes whether files can be started. -/
def chmod : Utility := needing "operand" fun call m =>
  let operands := if call.args.head? = some "-R" then call.args.drop 1 else call.args
  let mode := operands.head?.getD ""
  if operands.length < 2 then refuse call m s!"missing operand after '{mode}'"
  else forEach call (operands.drop 1) (fun fs path =>
    match fs.locate path with
    | .error fault => .error s!"cannot access '{path}': {fault.reason}"
    | .ok place =>
      match fs.get? place, startable? mode with
      | some (.file content _), some executable =>
        .ok (fs.set place (some (.file content executable)))
      | _, _ => .ok fs) m

/-- Writes the variables that it sees. -/
def printenv : Utility := fun call m =>
  match call.args with
  | [] => (0, writeTextLines call m (call.env.entries.map (fun (k, v) => s!"{k}={v}")))
  | names =>
    let values := names.filterMap call.env.find?
    (codeOf (values.length = names.length), writeTextLines call m values)

/-- The programs by name. -/
def all : List (String × Utility) :=
  [("basename", basename), ("cat", cat), ("chmod", chmod),
    ("cp", transfer false "create regular file"), ("cut", cut), ("dirname", dirname),
    ("env", printenv), ("expr", expr), ("grep", grep), ("head", head), ("ls", ls), ("mkdir", mkdir),
    ("mv", transfer true "move"), ("nl", nl), ("printenv", printenv), ("rev", rev), ("rm", rm),
    ("rmdir", rmdir), ("sed", sed), ("seq", seq), ("sleep", sleep), ("sort", sort), ("tac", tac),
    ("tail", tail), ("tee", tee), ("touch", touch), ("tr", tr), ("uniq", uniq), ("wc", wc),
    ("yes", yes),
    ("true", fun _ m => (0, m)), ("false", fun _ m => (1, m)),
    ("echo", fun call m => (0, m.writeTo call.fds 1 (plainEchoBytes call.args))),
    ("printf", fun call m =>
      match call.args with
      | [] => (1, complain call m "missing operand")
      | format :: args =>
        let (bytes, faults, broken) := formatBytes format args
        let m := m.writeTo call.fds 1 bytes
        (codeOf (faults.isEmpty && broken.isNone),
          (faults ++ broken.toList).foldl (fun m fault => complain call m fault) m))]

/-- Where programs lie. -/
def directories : List String := ["/bin/", "/usr/bin/"]

/-- The program of a name or a full path. -/
def find? (name : String) : Option Utility :=
  let short := match directories.find? (fun d => d.toList.isPrefixOf name.toList) with
    | some d => String.ofList (name.toList.drop d.length)
    | none => name
  (all.find? (fun (n, _) => n == short)).map (·.2)

end Utility

end Runbook.Shell
