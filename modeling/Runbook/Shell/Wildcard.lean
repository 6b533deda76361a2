import Runbook.Project.FileNode

/-!
# Wildcards

Patterns in which a star stands for any characters, a question mark for one, and brackets for one
of a set.

* `Cell` is a character of a pattern; a protected one stands for itself;
* `wildcardMatches` says whether a pattern matches a text;
* `wildcardPaths` lists the paths that a pattern with slashes matches.
-/

namespace Runbook.Shell

/-- A character of a pattern. -/
structure Cell where
  /-- The character. -/
  char : Char
  /-- Whether it stands for nothing but itself. -/
  isProtected : Bool
  deriving DecidableEq, Repr

/-- The cells as a text. -/
def cellText (cells : List Cell) : List Char := cells.map (·.char)

/-- Whether a cell is a given special character. -/
def Cell.isSpecial (cell : Cell) (c : Char) : Bool := cell.char == c && !cell.isProtected

/-- An item of a set in brackets: a range of characters. -/
abbrev BracketRange := Char × Char

/-- The named sets of characters. -/
def namedSet? (name : String) : Option (List BracketRange) :=
  match name with
  | "alpha" => some [('a', 'z'), ('A', 'Z')]
  | "digit" => some [('0', '9')]
  | "alnum" => some [('a', 'z'), ('A', 'Z'), ('0', '9')]
  | "upper" => some [('A', 'Z')]
  | "lower" => some [('a', 'z')]
  | "space" => some [(' ', ' '), ('\t', '\r')]
  | "blank" => some [(' ', ' '), ('\t', '\t')]
  | "punct" => some [('!', '/'), (':', '@'), ('[', '\x60'), ('\x7b', '~')]
  | "xdigit" => some [('a', 'f'), ('A', 'F'), ('0', '9')]
  | _ => none

/-- Reads the items of a set up to the bracket that closes it; `first` says that none was read. -/
def bracketItems? (first : Bool) : List Cell → Option (List BracketRange × List Cell)
  | [] => none
  | cell :: rest =>
    if cell.isSpecial ']' && !first then some ([], rest)
    else if cell.isSpecial '[' && (rest.head?.any (·.char == ':')) then
      let name := (cellText rest).drop 1 |>.takeWhile (· != ':')
      match namedSet? (String.ofList name) with
      | some ranges =>
        skipItems (name.length + 3) ranges rest
      | none => single cell rest
    else single cell rest
where
  /-- Reads a character or a range. -/
  single (cell : Cell) (rest : List Cell) : Option (List BracketRange × List Cell) :=
    match rest with
    | dash :: last :: more =>
      if dash.isSpecial '-' && !last.isSpecial ']' then
        (bracketItems? false more).map
          (fun (items, rest) => ((cell.char, last.char) :: items, rest))
      else (bracketItems? false (dash :: last :: more)).map
        (fun (items, rest) => ((cell.char, cell.char) :: items, rest))
    | rest => (bracketItems? false rest).map
        (fun (items, rest) => ((cell.char, cell.char) :: items, rest))
  /-- Goes on after the name of a set. -/
  skipItems : Nat → List BracketRange → List Cell → Option (List BracketRange × List Cell)
    | 0, ranges, rest =>
      (bracketItems? false rest).map (fun (items, rest) => (ranges ++ items, rest))
    | _ + 1, _, [] => none
    | n + 1, ranges, _ :: rest => skipItems n ranges rest

/-- The set that begins after an opening bracket: whether it is turned around, its items, and what
follows it. -/
def bracket? (cells : List Cell) : Option (Bool × List BracketRange × List Cell) :=
  match cells with
  | [] => none
  | cell :: rest =>
    if cell.isSpecial '!' || cell.isSpecial '^' then
      (bracketItems? true rest).map (fun (items, rest) => (true, items, rest))
    else (bracketItems? true cells).map (fun (items, rest) => (false, items, rest))

/-- Whether a pattern matches a whole text; `fuel` is at least the length of both together. -/
def wildcardMatchesIn : (fuel : Nat) → List Cell → List Char → Bool
  | 0, pattern, text => pattern.isEmpty && text.isEmpty
  | _ + 1, [], text => text.isEmpty
  | fuel + 1, cell :: pattern, text =>
    if cell.isSpecial '*' then
      wildcardMatchesIn fuel pattern text ||
        (match text with
          | [] => false
          | _ :: rest => wildcardMatchesIn fuel (cell :: pattern) rest)
    else match text with
      | [] => false
      | c :: rest =>
        if cell.isSpecial '?' then wildcardMatchesIn fuel pattern rest
        else if cell.isSpecial '[' then
          match bracket? pattern with
          | some (inverted, items, after) =>
            (items.any (fun (low, high) => low ≤ c && c ≤ high) != inverted) &&
              wildcardMatchesIn fuel after rest
          | none => c == '[' && wildcardMatchesIn fuel pattern rest
        else c == cell.char && wildcardMatchesIn fuel pattern rest

/-- Whether a pattern matches a whole text. -/
def wildcardMatches (pattern : List Cell) (text : List Char) : Bool :=
  wildcardMatchesIn (pattern.length + text.length + 1) pattern text

/-- Whether a pattern has a special character. -/
def hasWildcard (pattern : List Cell) : Bool :=
  pattern.any (fun cell => cell.isSpecial '*' || cell.isSpecial '?' || cell.isSpecial '[')

/-- Splits a pattern at slashes. -/
def splitPattern : List Cell → List (List Cell)
  | [] => [[]]
  | cell :: rest =>
    if cell.char = '/' then [] :: splitPattern rest
    else match splitPattern rest with
      | [] => [[cell]]
      | part :: more => (cell :: part) :: more

/-- Whether a name may be matched: one with a dot in front only by a dot. -/
def nameMatches (pattern : List Cell) (name : String) : Bool :=
  (name.toList.head? != some '.' || pattern.head?.any (·.char == '.')) &&
    wildcardMatches pattern name.toList

/-- The names in a directory that match a pattern, in order; the directory and the one around it
have names of dots. -/
def matchingNames (pattern : List Cell) (entries : List (String × FileNode)) : List String :=
  ([".", ".."] ++ entries.map (·.1)).filter (nameMatches pattern)

/-- The paths below a directory that match a pattern, in order; `before` is the path so far. -/
def pathsFrom (fs : FileSystem) : (before : String) → List (List Cell) → List String
  | _, [] => []
  | before, [last] =>
    match fs.find? (if before.isEmpty then "." else before) with
    | some (.directory entries) =>
      if hasWildcard last then
        (matchingNames last entries).map (before ++ ·)
      else
        let path := before ++ String.ofList (cellText last)
        if (fs.find? path).isSome then [path] else []
    | _ => []
  | before, part :: rest =>
    match fs.find? (if before.isEmpty then "." else before) with
    | some (.directory entries) =>
      if hasWildcard part then
        (matchingNames part entries).flatMap
          (fun name => pathsFrom fs (before ++ name ++ "/") rest)
      else pathsFrom fs (before ++ String.ofList (cellText part) ++ "/") rest
    | _ => []

/-- The paths that a pattern matches. -/
def wildcardPaths (fs : FileSystem) (pattern : List Cell) : List String :=
  pathsFrom fs "" (splitPattern pattern)

end Runbook.Shell
