import Runbook.Project.FileNode

/-!
# Glob patterns

Patterns for paths.  In a component a question mark stands for one character, a star for any number
of them, and brackets for one of a set; two stars alone stand for any number of directories.

* `Glob.read` reads a pattern, or tells where it goes wrong;
* `Glob.tokensMatch` says whether a component matches a name;
* `Glob.paths` lists what a pattern matches in a tree of files: a directory before what lies in it,
  the entries of a directory in the order of their names.
-/

namespace Runbook.Glob

/-- A part of a pattern. -/
inductive Token where
  /-- One character. -/
  | char (c : Char)
  /-- Any character. -/
  | any
  /-- Any number of characters. -/
  | star
  /-- Any number of directories. -/
  | deep
  /-- A character in one of the ranges. -/
  | within (ranges : List (Char × Char))
  /-- A character in none of the ranges. -/
  | except (ranges : List (Char × Char))
  deriving DecidableEq, Repr

/-- What is wrong with a pattern. -/
inductive Cause where
  /-- More than two stars in a row. -/
  | stars
  /-- Two stars that are not a component by themselves. -/
  | deepPlace
  /-- A bracket that is not closed. -/
  | range
  deriving DecidableEq, Repr

/-- What is wrong with a pattern, and where. -/
structure Fault where
  /-- The number of characters before the place. -/
  position : Nat
  /-- What is wrong. -/
  cause : Cause
  deriving DecidableEq, Repr

/-- The wording of a cause. -/
def Cause.text : Cause → String
  | .stars => "wildcards are either regular \x60*\x60 or recursive \x60**\x60"
  | .deepPlace => "recursive wildcards must form a single path component"
  | .range => "invalid range pattern"

/-- The wording of a fault. -/
def Fault.text (f : Fault) : String :=
  s!"Pattern syntax error near position {f.position}: {f.cause.text}"

/-! ## Reading -/

/-- The characters up to a closing bracket, and those after it. -/
def upToBracket? : List Char → Option (List Char × List Char)
  | [] => none
  | c :: rest =>
    if c = ']' then some ([], rest)
    else (upToBracket? rest).map (fun (inside, after) => (c :: inside, after))

/-- The ranges inside brackets; a character by itself is a range of one. -/
def ranges : List Char → List (Char × Char)
  | low :: '-' :: high :: rest => (low, high) :: ranges rest
  | c :: rest => (c, c) :: ranges rest
  | [] => []

/-- The set that begins after an opening bracket, and what follows it; the first character of a set
does not close it. -/
def bracket? : List Char → Option (Token × List Char)
  | '!' :: c :: rest =>
    (upToBracket? rest).map (fun (inside, after) => (.except (ranges (c :: inside)), after))
  | ['!'] | [] => none
  | c :: rest =>
    (upToBracket? rest).map (fun (inside, after) => (.within (ranges (c :: inside)), after))

/-- Reads two stars, after which `after` follows, in a pattern with `position` characters before
them, the last of which is `before`; the result is what is left to read. -/
def readDeep (position : Nat) (before : Option Char) (after : List Char) :
    Except Fault (List Char) :=
  if before.all (· = '/') then
    match after with
    | [] => .ok []
    | '/' :: rest => .ok rest
    | _ => .error ⟨position + 2, .deepPlace⟩
  else .error ⟨position - 1, .deepPlace⟩

/-- Reads a pattern of `total` characters from some place on, before which `before` stands; `fuel`
is at least the number of characters left. -/
def readFrom (total : Nat) : (fuel : Nat) → (before : Option Char) → List Char →
    Except Fault (List Token)
  | 0, _, _ | _, _, [] => .ok []
  | fuel + 1, before, '*' :: rest =>
    let position := total - (rest.length + 1)
    match rest with
    | '*' :: '*' :: _ => .error ⟨position + 2, .stars⟩
    | '*' :: after => do
      let rest ← readDeep position before after
      return .deep :: (← readFrom total fuel (some '/') rest)
    | rest => (.star :: ·) <$> readFrom total fuel (some '*') rest
  | fuel + 1, _, '?' :: rest => (.any :: ·) <$> readFrom total fuel (some '?') rest
  | fuel + 1, _, '[' :: rest =>
    match bracket? rest with
    | some (token, rest) => (token :: ·) <$> readFrom total fuel (some ']') rest
    | none => .error ⟨total - (rest.length + 1), .range⟩
  | fuel + 1, _, c :: rest => (.char c :: ·) <$> readFrom total fuel (some c) rest

/-- Reads a pattern. -/
def read (cs : List Char) : Except Fault (List Token) := readFrom cs.length cs.length none cs

/-! ## Matching names -/

/-- Whether a part that stands for one character stands for this one. -/
def Token.accepts (c : Char) : Token → Bool
  | .char d => c == d
  | .any => true
  | .within ranges => ranges.any (fun (low, high) => low ≤ c && c ≤ high)
  | .except ranges => !ranges.any (fun (low, high) => low ≤ c && c ≤ high)
  | .star | .deep => false

/-- Whether some end of a text has a property. -/
def anyEnd (p : List Char → Bool) : List Char → Bool
  | [] => p []
  | c :: rest => p (c :: rest) || anyEnd p rest

/-- Whether parts match a whole text. -/
def tokensMatch : List Token → List Char → Bool
  | [], text => text.isEmpty
  | .star :: rest, text | .deep :: rest, text => anyEnd (tokensMatch rest) text
  | token :: rest, text =>
    match text with
    | [] => false
    | c :: more => token.accepts c && tokensMatch rest more

/-- The text of a component without special characters. -/
def literal? : List Token → Option (List Char)
  | [] => some []
  | .char c :: rest => (literal? rest).map (c :: ·)
  | _ :: _ => none

/-- Whether a component stands for any number of directories. -/
def isDeep (component : List Token) : Bool := component.contains .deep

/-! ## Finding paths -/

/-- The path of an entry; that of the working directory is not written. -/
def below (path name : String) : String := if path = "." then name else Path.join path name

mutual

/-- All that `visit` finds at the nodes below a node, each before those below it. -/
def visitBelow (visit : (path name : String) → List String) (path : String) :
    FileNode → List String
  | .file _ _ => []
  | .directory entries => visitEntries visit path entries

/-- All that `visit` finds at entries of a directory and below them. -/
def visitEntries (visit : (path name : String) → List String) (path : String) :
    List (String × FileNode) → List String
  | [] => []
  | (name, node) :: rest =>
    visit (below path name) name ++ visitBelow visit (below path name) node ++
      visitEntries visit path rest

end

/-- The entries of a directory; a file has none. -/
def entriesAt (fs : FileSystem) (path : String) : List (String × FileNode) :=
  ((fs.find? path).bind FileNode.entries?).getD []

/-- The name that a component without special characters leads to, if something is there. -/
def literalPath? (fs : FileSystem) (path name : String) : Option String :=
  let next := below path name
  let isThere := if name = "." || name = ".." then fs.isDirectory path else (fs.find? next).isSome
  if isThere then some next else none

/-- The ways from a directory to itself and to the one around it, if a component with a dot in front
matches them. -/
def dotPaths (fs : FileSystem) (path : String) (component : List Token) : List String :=
  if fs.isDirectory path && component.head? == some (.char '.') then
    (["..", "."].filter (fun name => tokensMatch component name.toList)).map (Path.join path)
  else []

/-- What one component with special characters leads to. -/
def matchingPaths (fs : FileSystem) (path : String) (component : List Token) : List String :=
  dotPaths fs path component ++
    ((entriesAt fs path).filter (fun (name, _) => tokensMatch component name.toList)).map
      (fun (name, _) => below path name)

/-- The paths below a path that lead along components, of which no two in a row are two stars. -/
def pathsFrom (fs : FileSystem) : List (List Token) → (path : String) → List String
  | [], path => [path]
  | [component], path =>
    if isDeep component then
      visitEntries (fun path _ => if fs.isDirectory path then [path] else []) path
        (entriesAt fs path)
    else match literal? component with
      | some name => (literalPath? fs path (String.ofList name)).toList
      | none => matchingPaths fs path component
  | component :: next :: rest, path =>
    if isDeep component then
      visitEntries
        (fun path name => if tokensMatch next name.toList then pathsFrom fs rest path else []) path
        (entriesAt fs path)
    else match literal? component with
      | some name =>
        match literalPath? fs path (String.ofList name) with
        | some path => pathsFrom fs (next :: rest) path
        | none => []
      | none => (matchingPaths fs path component).flatMap (pathsFrom fs (next :: rest))

/-- The components with one of those in a row that stand for any number of directories. -/
def collapseDeep : List (List Token) → List (List Token)
  | [] => []
  | component :: rest =>
    if isDeep component && rest.head?.any isDeep then collapseDeep rest
    else component :: collapseDeep rest

/-- The texts of the components of a pattern; a slash at the end begins none. -/
def componentTexts (cs : List Char) : List (List Char) :=
  let parts := Path.split cs
  if parts.getLast? = some [] then parts.dropLast else parts

/-- The paths that a pattern matches in a tree of files. -/
def paths (fs : FileSystem) (pattern : String) : Except Fault (List String) := do
  let _ ← read pattern.toList
  let (scope, cs) := match pattern.toList with
    | '/' :: rest => ("/", rest)
    | cs => (".", cs)
  let components ← (componentTexts cs).mapM read
  let found := pathsFrom fs (collapseDeep components) scope
  return if pattern.toList.getLast? = some '/' then found.filter fs.isDirectory else found

end Runbook.Glob
