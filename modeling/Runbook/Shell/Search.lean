import Runbook.Shell.CallOptions
import Runbook.Shell.Edit.Run

/-!
# The program that searches

* `linePattern` reads the pattern that lines are picked by, and `LineChoice` says which are picked;
* `searchedFiles` has the files that are searched;
* `grep` writes the lines that hold a pattern, or tells of them.
-/

namespace Runbook.Shell

namespace Utility

/-- The options of `grep`. -/
def grepOptions : OptionSet where
  flags := "EFGPivwxcnoqslLhHrRaUyzbI"
  valued := "efmABC"
  optional := "K"
  words := [("extended-regexp", 'E'), ("fixed-strings", 'F'), ("basic-regexp", 'G'),
    ("perl-regexp", 'P'), ("ignore-case", 'i'), ("invert-match", 'v'), ("word-regexp", 'w'),
    ("line-regexp", 'x'), ("count", 'c'), ("line-number", 'n'), ("only-matching", 'o'),
    ("quiet", 'q'), ("silent", 'q'), ("no-messages", 's'), ("files-with-matches", 'l'),
    ("files-without-match", 'L'), ("no-filename", 'h'), ("with-filename", 'H'),
    ("recursive", 'r'), ("text", 'a'), ("regexp", 'e'), ("file", 'f'), ("max-count", 'm'),
    ("after-context", 'A'), ("before-context", 'B'), ("context", 'C'), ("color", 'K'),
    ("colour", 'K')]

/-! ## Patterns -/

/-- Reads one of the patterns: a text that stands for itself, or one in a style. -/
def readOne (p : Parted) (text : List Char) : Except PatternFault LinePattern :=
  if p.has 'F' then .ok (LinePattern.text text)
  else LinePattern.read ⟨p.has 'E' || p.has 'P', true⟩ text

/-- A pattern that has to match a whole line, or whole words, if that is asked. -/
def asWhole (p : Parted) (pattern : LinePattern) : LinePattern :=
  if p.has 'x' then .both (.place .lineStart) (.both pattern (.place .lineEnd))
  else if p.has 'w' then .both (.place .noWordBefore) (.both pattern (.place .noWordAfter))
  else pattern

/-- The pattern that lines are picked by: one of those on the lines of texts. -/
def linePattern (p : Parted) (texts : List String) : Except PatternFault LinePattern := do
  let patterns ← (texts.flatMap (·.splitOn "\n")).mapM (fun text =>
    readOne p (Edit.ofBytes (Utf8.encode text)))
  return match (patterns.map (asWhole p)).reverse with
    | [] => .set false []
    | last :: before => before.foldl (fun rest pattern => .either pattern rest) last

/-! ## Picking lines -/

/-- Which lines are picked. -/
structure LineChoice where
  /-- The pattern. -/
  pattern : LinePattern
  /-- How it is searched for. -/
  mode : SearchMode
  /-- Whether the lines without a match are picked. -/
  isNegated : Bool
  /-- How many lines are picked at most. -/
  most : Option Nat

/-- Whether a line is picked. -/
def LineChoice.picks (choice : LineChoice) (line : List Char) : Bool :=
  choice.pattern.matchesIn choice.mode line != choice.isNegated

/-- The lines of a file, each with its number and whether it is picked; no lines follow the last one
that may be picked. -/
def LineChoice.marked (choice : LineChoice) (lines : List (List Char)) :
    List (Nat × Bool × List Char) :=
  (lines.foldl (fun (acc : Nat × Nat × List (Nat × Bool × List Char)) line =>
    let (number, found, out) := acc
    let picked := choice.most.all (found < ·) && choice.picks line
    (number + 1, if picked then found + 1 else found, (number, picked, line) :: out))
    (1, 0, [])).2.2.reverse

/-- The matches in a text from a place on that are not empty; `fuel` is more than its length. -/
def allMatches (choice : LineChoice) (text : List Char) : (fuel : Nat) → Nat → List (List Char)
  | 0, _ => []
  | fuel + 1, start =>
    match choice.pattern.search choice.mode text start with
    | none => []
    | some found =>
      let stop := found.last.index
      if found.start = stop then allMatches choice text fuel (stop + 1)
      else (text.take stop).drop found.start :: allMatches choice text fuel stop

/-- How many lines are written around those that are picked. -/
structure Around where
  /-- How many before. -/
  before : Nat
  /-- How many after. -/
  after : Nat

/-- The lines to write: those that are picked and those around them, with a mark where lines between
them are left out. -/
def withAround (around : Around) (lines : List (Nat × Bool × List Char)) :
    List (Option (Nat × Bool × List Char)) :=
  let picked := (lines.filter (·.2.1)).map (·.1)
  let near (n : Nat) : Bool :=
    picked.any (fun k => k ≤ n + around.before && n ≤ k + around.after)
  let shown := lines.filter (fun (n, isPicked, _) => isPicked || near n)
  (shown.foldl (fun (acc : Option Nat × List (Option (Nat × Bool × List Char))) line =>
    let gap := acc.1.any (fun last => last + 1 < line.1)
    (some line.1, some line :: (if gap then none :: acc.2 else acc.2))) (none, [])).2.reverse

/-! ## Files -/

/-- The files below a directory, in the order of their names; `fuel` bounds how deep they lie. -/
def filesBelow : (fuel : Nat) → (path : String) → FileNode → List (String × List UInt8)
  | 0, _, _ => []
  | _ + 1, path, .file content _ => [(path, content)]
  | fuel + 1, path, .directory entries =>
    entries.flatMap (fun (name, node) => filesBelow fuel (Path.join path name) node)

/-- How deep directories lie at most. -/
def deepest : Nat := 1000

/-- Reads the operands; directories are searched if that is asked, and the others that cannot be
read are reported. -/
def searchedFiles (call : Call) (p : Parted) : List String → Machine →
    List (String × List UInt8) × Bool × Machine
  | [], m => ([], true, m)
  | path :: rest, m =>
    let isDeep := p.has 'r' || p.has 'R'
    let (found, fine, m) : List (String × List UInt8) × Bool × Machine :=
      match m.files.find? path, isDeep with
      | some (.directory entries), true => (filesBelow deepest path (.directory entries), true, m)
      | _, _ =>
        match readOperand call path m with
        | (.ok bytes, m) => ([(if path = "-" then "(standard input)" else path, bytes)], true, m)
        | (.error fault, m) =>
          ([], fault = .isDirectory,
            if p.has 's' then m else complain call m (unreadable call path fault))
    let (more, others, m) := searchedFiles call p rest m
    (found ++ more, fine && others, m)

/-! ## The program -/

/-- The lines that are written of a file. -/
def reportOf (p : Parted) (choice : LineChoice) (around : Around) (named : Bool) (path : String)
    (lines : List (Nat × Bool × List Char)) : List (List Char) :=
  let front (mark : String) : List Char := if named then (path ++ mark).toList else []
  let found := (lines.filter (·.2.1)).length
  let ofLine (mark : String) (n : Nat) : List Char :=
    front mark ++ (if p.has 'n' then (toString n ++ mark).toList else [])
  if p.has 'l' then if found = 0 then [] else [path.toList]
  else if p.has 'L' then if found = 0 then [path.toList] else []
  else if p.has 'c' then [front ":" ++ (toString found).toList]
  else if p.has 'o' then
    if choice.isNegated then []
    else (lines.filter (·.2.1)).flatMap (fun (n, _, line) =>
      (allMatches choice line (line.length + 2) 0).map (ofLine ":" n ++ ·))
  else (withAround around lines).map (fun
    | none => "--".toList
    | some (n, isPicked, line) => ofLine (if isPicked then ":" else "-") n ++ line)

/-- How `grep` is called. -/
def grepUsage (name : String) : String :=
  s!"Usage: {name} [OPTION]... PATTERNS [FILE]...\nTry '{name} --help' for more information."

/-- The number that an option has for an argument. -/
def numberArg? (p : Parted) (letter : Char) : Option Nat :=
  (p.arg? letter).bind (fun n => Decimal.readNat? n.toList)

/-- The texts of the patterns, among the options or else the first operand, and the operands. -/
def patternTexts (fs : FileSystem) (p : Parted) :
    Except (String × PathFault) (Option (List String × List String)) := do
  let fromFiles ← (p.args 'f').mapM (fun path =>
    match fs.readBytes path with
    | .error fault => .error (path, fault)
    | .ok bytes => .ok (Edit.linesOf path '\n' (Edit.ofBytes bytes)))
  let lines := fromFiles.flatten.map (fun line => Utf8.decodeLossy (Edit.toBytes line.text))
  if p.has 'e' || p.has 'f' then return some (p.args 'e' ++ lines, p.operands)
  else match p.operands with
    | [] => return none
    | text :: operands => return some ([text], operands)

/-- Searches the operands, or the input. -/
def searchOn (call : Call) (p : Parted) (choice : LineChoice) (operands : List String)
    (m : Machine) : Nat × Machine :=
  let isDeep := p.has 'r' || p.has 'R'
  let (files, fine, m) := searchedFiles call p
    (if operands.isEmpty then [if isDeep then "." else "-"] else operands) m
  let named := (operands.length > 1 || isDeep || p.has 'H') && !p.has 'h'
  let both := (numberArg? p 'C').getD 0
  let around : Around := ⟨(numberArg? p 'B').getD both, (numberArg? p 'A').getD both⟩
  let marked := files.map (fun (path, bytes) =>
    let path := if operands.isEmpty && isDeep then String.ofList (path.toList.drop 2) else path
    (path, choice.marked ((Edit.linesOf path '\n' (Edit.ofBytes bytes)).map (·.text))))
  let reports := marked.map (fun (path, lines) => reportOf p choice around named path lines)
  let isSpaced := (0 < around.before || 0 < around.after) &&
    !(["l", "L", "c", "o"].any (fun c => c.toList.any p.has))
  let reports := if isSpaced then
      [["--".toList]].intercalate ((reports.filter (!·.isEmpty)).map ([·]))
    else reports
  let found := marked.any (fun (_, lines) => lines.any (·.2.1))
  let succeeds := if p.has 'L' then marked.any (fun (_, lines) => !lines.any (·.2.1)) else found
  let out := (reports.flatten.map (fun cs => Edit.toBytes cs ++ [10])).flatten
  (if !fine && !(succeeds && p.has 'q') then 2 else if succeeds then 0 else 1,
    if p.has 'q' then m else m.writeTo call.fds 1 out)

/-- Picks lines. -/
def grep : Utility := fun call m =>
  match grepOptions.read call.args with
  | .error fault =>
    (2, m.complain call.fds s!"{call.name}: {fault.message}\n{grepUsage call.name}")
  | .ok p =>
    match patternTexts m.files p with
    | .error (path, fault) => (2, complain call m s!"{path}: {fault.reason}")
    | .ok none => (2, m.complain call.fds (grepUsage call.name))
    | .ok (some (texts, operands)) =>
      match linePattern p texts with
      | .error fault => (2, complain call m fault.message)
      | .ok pattern =>
        searchOn call p ⟨pattern, ⟨p.has 'i' || p.has 'y', false⟩, p.has 'v', numberArg? p 'm'⟩
          operands m

end Utility

end Runbook.Shell
