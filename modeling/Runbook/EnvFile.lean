import Runbook.KeyMap
import Runbook.Text.Blank
import Runbook.Text.Letter
import Runbook.Text.Utf8

/-!
# Environment files

Files that add variables to an environment, each line a name, an equals sign and a value.  A value
may stand in quotes, go on over lines inside them, and have the values of other variables put in
after dollar signs.  A variable that is there already keeps its value.

* `EnvFile.entries` splits a file into entries, comments cut off;
* `EnvFile.readEntry` reads an entry;
* `EnvFile.load` adds the variables of a file up to the first entry that does not read as one.
-/

namespace Runbook.EnvFile

/-! ## Entries -/

/-- Where in an entry a place is. -/
inductive Place where
  /-- Outside of quotes. -/
  | outside
  /-- Right after a space outside of quotes. -/
  | spaced
  /-- Right after a backslash outside of quotes. -/
  | escaped
  /-- Inside quotes of a kind; `escaped` says whether right after a backslash. -/
  | quoted (mark : Char) (escaped : Bool)
  deriving DecidableEq, Repr

/-- The place after a character, or nothing if a comment begins with it. -/
def Place.step (place : Place) (c : Char) : Option Place :=
  let plain : Place :=
    if c = '\\' then .escaped
    else if c = '"' || c = '\'' then .quoted c false
    else .outside
  match place with
  | .outside =>
    if isBlank c && c ≠ '\n' && c ≠ '\r' then some .spaced else some plain
  | .spaced => if c = '#' then none else some plain
  | .escaped => some .outside
  | .quoted mark true => some (.quoted mark false)
  | .quoted mark false =>
    if c = '\\' then some (.quoted mark true)
    else if c = mark then some .outside
    else some (.quoted mark false)

/-- How a line ends. -/
inductive LineEnd where
  /-- At a place. -/
  | place (place : Place)
  /-- With a comment, before which there is a text. -/
  | comment (before : List Char)
  deriving DecidableEq, Repr

/-- How a line ends that begins at a place. -/
def lineEnd (place : Place) : List Char → LineEnd
  | [] => .place place
  | c :: rest =>
    match place.step c with
    | none => .comment []
    | some next =>
      match lineEnd next rest with
      | .place last => .place last
      | .comment before => .comment (c :: before)

/-- Drops the end of a line. -/
def dropNewline (cs : List Char) : List Char :=
  match cs.reverse with
  | '\n' :: '\r' :: rest => rest.reverse
  | '\n' :: rest => rest.reverse
  | _ => cs

/-- Splits bytes after every line feed. -/
def byteLines : List UInt8 → List (List UInt8)
  | [] => []
  | b :: rest =>
    if b = 10 then [b] :: byteLines rest
    else match byteLines rest with
      | [] => [[b]]
      | line :: more => (b :: line) :: more

/-- The entries in lines, the first of which goes on from `before` at a place; nothing stands for
what does not read, after which there are no entries. -/
def entriesFrom (before : List Char) (place : Place) :
    List (Option (List Char)) → List (Option (List Char))
  | [] => if place = .outside then [] else [none]
  | none :: _ => [none]
  | some line :: rest =>
    let text := before ++ line
    if (trimStart text).head? = some '#' then some [] :: entriesFrom [] .outside rest
    else match lineEnd place line with
      | .comment shown => some (before ++ shown) :: entriesFrom [] .outside rest
      | .place .outside => some (dropNewline text) :: entriesFrom [] .outside rest
      | .place place => entriesFrom text place rest

/-- The bytes without a mark of the byte order in front. -/
def withoutMark (content : List UInt8) : List UInt8 :=
  match content with
  | 0xEF :: 0xBB :: 0xBF :: rest => rest
  | content => content

/-- The entries of a file. -/
def entries (content : List UInt8) : List (Option (List Char)) :=
  entriesFrom [] .outside
    ((byteLines (withoutMark content)).map (fun line => (Utf8.decode? line).map String.toList))

/-! ## Values -/

/-- The name of a variable whose value is to be put in. -/
inductive Reference where
  /-- There is none. -/
  | none
  /-- After a dollar sign. -/
  | bare (name : List Char)
  /-- After a dollar sign and a brace. -/
  | braced (name : List Char)
  deriving DecidableEq, Repr

/-- What has been read of a value. -/
structure Partial where
  /-- The value so far. -/
  value : List Char
  /-- The quotation mark around the place. -/
  quote : Option Char
  /-- Whether the place is right after a backslash. -/
  escaped : Bool
  /-- Whether only a comment may follow. -/
  ended : Bool
  /-- The name being read. -/
  reference : Reference
  deriving DecidableEq, Repr

namespace Partial

/-- Before the first character. -/
def start : Partial := ⟨[], none, false, false, .none⟩

/-- Takes a character into the value. -/
def push (p : Partial) (c : Char) : Partial := { p with value := p.value ++ [c] }

/-- Takes a text into the value. -/
def append (p : Partial) (s : String) : Partial := { p with value := p.value ++ s.toList }

/-- Whether a character goes on with the name of a variable. -/
def isNameChar (c : Char) : Bool := isAlphanumeric c

/-- Takes the character after a backslash in. -/
def unescape (p : Partial) (c : Char) : Option Partial :=
  let p := { p with escaped := false }
  if c = '\\' || c = '\'' || c = '"' || c = '$' || c = ' ' then some (p.push c)
  else if c = 'n' then some (p.push '\n')
  else none

/-- Takes a character in that ends a name without braces. -/
def endBare (lookUp : String → String) (p : Partial) (name : List Char) (c : Char) : Partial :=
  let p := { p with reference := .none }.append (lookUp (String.ofList name))
  if c = '$' then { p with reference := .bare [] } else p.push c

/-- Takes a character in outside of names, single quotes and escapes. -/
def stepPlain (p : Partial) (c : Char) : Partial :=
  if c = '$' then { p with reference := .bare [] }
  else if c = '\\' then { p with escaped := true }
  else if p.quote = some '"' then if c = '"' then { p with quote := none } else p.push c
  else if c = '\'' || c = '"' then { p with quote := some c }
  else if c = ' ' || c = '\t' then { p with ended := true }
  else p.push c

/-- Takes a character in. -/
def step (lookUp : String → String) (p : Partial) (c : Char) : Option Partial :=
  if p.escaped then p.unescape c
  else if p.quote = some '\'' then
    some (if c = '\'' then { p with quote := none } else p.push c)
  else match p.reference with
    | .none => some (p.stepPlain c)
    | .bare name =>
      if isNameChar c then some { p with reference := .bare (name ++ [c]) }
      else if c = '\x7b' && name.isEmpty then some { p with reference := .braced [] }
      else some (p.endBare lookUp name c)
    | .braced name =>
      if c = '\x7d' then
        some ({ p with reference := .none }.append (lookUp (String.ofList name)))
      else some { p with reference := .braced (name ++ [c]) }

/-- The value at the end, unless a quotation mark or a brace is missing. -/
def finish (lookUp : String → String) (p : Partial) : Option String :=
  if p.quote.isSome then none
  else match p.reference with
    | .none => some (String.ofList p.value)
    | .bare name => some (String.ofList (p.append (lookUp (String.ofList name))).value)
    | .braced _ => none

/-- Takes characters in up to the end or a comment. -/
def read (lookUp : String → String) : Partial → List Char → Option Partial
  | p, [] => some p
  | p, c :: rest =>
    if p.ended then
      if c = ' ' || c = '\t' then read lookUp p rest
      else if c = '#' then some p
      else none
    else match p.step lookUp c with
      | some p => read lookUp p rest
      | none => none

end Partial

/-- Reads a value. -/
def readValue (lookUp : String → String) (cs : List Char) : Option String :=
  (Partial.start.read lookUp cs).bind (Partial.finish lookUp)

/-- Reads a name, and gives what follows. -/
def readName : List Char → Option (String × List Char)
  | [] => none
  | c :: rest =>
    if c.isAlpha || c = '_' then
      let goesOn (c : Char) : Bool := c.isAlphanum || c = '_' || c = '.'
      some (String.ofList (c :: rest.takeWhile goesOn), rest.dropWhile goesOn)
    else none

/-- Reads an equals sign between blanks. -/
def readEquals (cs : List Char) : Option (List Char) :=
  match trimStart cs with
  | '=' :: rest => some (trimStart rest)
  | _ => none

/-- Reads a name and an equals sign; the word `export` may stand in front. -/
def readHead (cs : List Char) : Option (String × List Char) := do
  let (name, rest) ← readName cs
  match readEquals rest with
  | some value => return (name, value)
  | none =>
    if name = "export" then
      let (name, rest) ← readName (trimStart rest)
      return (name, ← readEquals rest)
    else none

/-- Reads an entry: nothing, or a name and its value. -/
def readEntry (lookUp : String → String) (cs : List Char) : Option (Option (String × String)) :=
  let cs := trim cs
  match cs with
  | [] | '#' :: _ => some none
  | cs => do
    let (name, value) ← readHead cs
    match value with
    | [] | '#' :: _ => return some (name, "")
    | value => return some (name, ← readValue lookUp value)

/-! ## Loading -/

/-- The value of a variable: of the environment, or else of the file so far. -/
def valueOf (env known : KeyMap String) (name : String) : String :=
  ((env.find? name).or (known.find? name)).getD ""

/-- Adds the variables of entries to an environment. -/
def loadEntries (env known : KeyMap String) : List (Option (List Char)) → KeyMap String
  | [] | none :: _ => env
  | some entry :: rest =>
    match readEntry (valueOf env known) entry with
    | none => env
    | some none => loadEntries env known rest
    | some (some (name, value)) =>
      let known := known.insert name value
      if env.contains name then loadEntries env known rest
      else loadEntries (env.insert name value) known rest

/-- Adds the variables of a file to an environment. -/
def load (content : List UInt8) (env : KeyMap String) : KeyMap String :=
  loadEntries env .empty (entries content)

end Runbook.EnvFile
