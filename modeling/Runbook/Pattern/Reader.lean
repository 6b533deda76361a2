import Runbook.Number.Decimal
import Runbook.Pattern.Node
import Runbook.Pattern.Syntax
import Runbook.Text.Blank
import Runbook.Text.Letter

/-!
# Reading patterns

The grammar of patterns: literals, classes with set operations, groups with flags, counts,
alternatives, and conditions on places.

* `Syntax.read` turns a text into its syntax, or says where and why it breaks the grammar.
-/

namespace Runbook.Pattern

/-- What reading gives: a result, or the first fault. -/
abbrev Reading := Except Fault

/-- Fails. -/
def fail {α : Type} (cause : Cause) (start stop : Nat) (other : Option Span := none) : Reading α :=
  .error ⟨cause, ⟨start, stop⟩, other⟩

/-- Drops blanks and comments; `comment` says that a comment is open. -/
def skipBlanks (comment : Bool) : List Char → List Char
  | [] => []
  | c :: rest =>
    if comment then skipBlanks (c != '\n') rest
    else if isBlank c then skipBlanks false rest
    else if c = '#' then skipBlanks true rest
    else c :: rest

/-- The first character that is no blank; one number sign in front of it does not count. -/
def firstShown? (signed : Bool) : List Char → Option Char
  | [] => none
  | c :: rest =>
    if isBlank c then firstShown? signed rest
    else if c = '#' && !signed then firstShown? true rest
    else some c

/-- What the functions below need to know. -/
structure Scope where
  /-- The number of characters of the pattern. -/
  size : Nat
  /-- Whether blanks and comments are skipped. -/
  verbose : Bool

namespace Scope

/-- The place before the rest of the pattern. -/
def place (s : Scope) (rest : List Char) : Nat := s.size - rest.length

/-- Drops blanks and comments, if they are skipped. -/
def skip (s : Scope) (rest : List Char) : List Char :=
  if s.verbose then skipBlanks false rest else rest

/-- Drops a character and what is to be skipped after it. -/
def advance (s : Scope) (rest : List Char) : List Char := s.skip rest.tail

/-- The character that comes after the first one. -/
def peek? (s : Scope) (rest : List Char) : Option Char :=
  if s.verbose then (firstShown? false rest.tail).or rest.tail.head? else rest.tail.head?

/-- The span from one rest of the pattern to a later one. -/
def span (s : Scope) (rest after : List Char) : Span := ⟨s.place rest, s.place after⟩

end Scope

/-! ## Escapes -/

/-- Characters that have a meaning of their own in a pattern. -/
def isMeta (c : Char) : Bool := "\\.+*?()|[]\x7b\x7d^$#&-~".toList.contains c

/-- Characters that may stand after a backslash for themselves. -/
def isEscapable (c : Char) : Bool :=
  isMeta c || (c.toNat < 128 && !c.isAlphanum && c != '<' && c != '>')

/-- The characters accepted by `ok`, what is to be skipped after each being dropped. -/
def takeWhileSkipping (s : Scope) (ok : Char → Bool) : Nat → List Char → List Char × List Char
  | fuel + 1, c :: rest =>
    if ok c then
      let (taken, after) := takeWhileSkipping s ok fuel (s.skip rest)
      (c :: taken, after)
    else ([], c :: rest)
  | _, rest => ([], rest)

/-- The character with the number that hexadecimal digits stand for. -/
def charOfHex? (digits : List Char) : Option Char := do
  let n ← Decimal.readNatIn? 16 digits
  if n.isValidChar then some (Char.ofNat n) else none

/-- Whether the character is a hexadecimal digit. -/
def isHex (c : Char) : Bool := (Decimal.digitValueIn? 16 c).isSome

/-- Reads a fixed number of hexadecimal digits. -/
def readHexDigits (s : Scope) : Nat → List Char → Reading (List Char × List Char)
  | 0, rest => return ([], rest)
  | n + 1, rest =>
    match rest with
    | [] => fail .escapeEnd s.size s.size
    | c :: _ =>
      if isHex c then do
        let (more, after) ← readHexDigits s n (s.advance rest)
        return (c :: more, after)
      else fail .hexInvalidDigit (s.place rest) (s.place rest + 1)

/-- Reads the digits after the letter of a hexadecimal escape, and says whether they give a
byte. -/
def readHex (s : Scope) (kind : Char) (rest : List Char) : Reading (Char × Bool × List Char) := do
  let rest := s.advance rest
  match rest with
  | [] => fail .escapeEnd s.size s.size
  | '\x7b' :: _ =>
    let inner := s.advance rest
    let (digits, after) := takeWhileSkipping s isHex inner.length inner
    match after with
    | [] => fail .escapeEnd (s.place rest) s.size
    | '\x7d' :: _ =>
      let next := s.advance after
      if digits.isEmpty then fail .hexEmpty (s.place rest) (s.place next)
      else match charOfHex? digits with
        | some c => return (c, false, next)
        | none => fail .hexInvalid (s.place rest + 1) (s.place after)
    | _ => fail .hexInvalidDigit (s.place after) (s.place after + 1)
  | _ =>
    let count := if kind = 'x' then 2 else if kind = 'u' then 4 else 8
    let (digits, after) ← readHexDigits s count rest
    match charOfHex? digits with
    | some c => return (c, kind = 'x', after)
    | none => fail .hexInvalid (s.place rest) (s.place after)

/-- What comes before and after the first exclamation mark with an equals sign, if there is one. -/
def splitAtUnequal? : List Char → Option (List Char × List Char)
  | [] => none
  | '!' :: '=' :: rest => some ([], rest)
  | c :: rest => (splitAtUnequal? rest).map (fun (before, after) => (c :: before, after))

/-- What comes before and after the first character of a kind, if there is one. -/
def splitAtChar? (mark : Char) (cs : List Char) : Option (List Char × List Char) :=
  match cs.dropWhile (· != mark) with
  | _ :: after => some (cs.takeWhile (· != mark), after)
  | [] => none

/-- What a name between braces asks for. -/
def Query.ofName (name : List Char) : Query :=
  let parts := (splitAtUnequal? name).or ((splitAtChar? ':' name).or (splitAtChar? '=' name))
  match parts with
  | some (asked, wanted) => .value asked wanted
  | none => .name name

/-- Reads the name of a property. -/
def readProperty (s : Scope) (rest : List Char) : Reading (Query × List Char) := do
  let rest := s.advance rest
  match rest with
  | [] => fail .escapeEnd s.size s.size
  | '\x7b' :: _ =>
    let inner := s.advance rest
    let (name, after) := takeWhileSkipping s (· != '\x7d') inner.length inner
    match after with
    | [] => fail .escapeEnd s.size s.size
    | _ :: next => return (.ofName name, next)
  | c :: _ =>
    if c = '\\' then fail .propertyInvalid (s.place rest) (s.place rest + 1)
    else return (.name [c], s.advance rest)

/-- Reads the name of a word boundary, `start` being the place of the backslash.  If no name
begins there, the brace begins a count. -/
def readBoundary (s : Scope) (start : Nat) (rest : List Char) : Reading (Edge × List Char) := do
  match rest with
  | '\x7b' :: _ =>
    let inner := s.advance rest
    let isNameChar := fun c : Char => c.isAlpha || c == '-'
    match inner with
    | [] => fail .boundaryEnd start s.size
    | c :: _ =>
      if !isNameChar c then return (.word, rest)
      let (name, after) := takeWhileSkipping s isNameChar inner.length inner
      match after with
      | '\x7d' :: next =>
        match String.ofList name with
        | "start" => return (.wordStart, next)
        | "end" => return (.wordEnd, next)
        | "start-half" => return (.halfStart, next)
        | "end-half" => return (.halfEnd, next)
        | _ => fail .boundaryUnknown (s.place inner) (s.place after)
      | _ => fail .boundaryUnclosed (s.place rest) (s.place after)
  | _ => return (.word, rest)

/-- The character that a letter after a backslash stands for. -/
def controlOf? : Char → Option Char
  | 'a' => some '\x07'
  | 'f' => some '\x0c'
  | 't' => some '\t'
  | 'n' => some '\n'
  | 'r' => some '\r'
  | 'v' => some '\x0b'
  | _ => none

/-- The condition that a character after a backslash stands for. -/
def edgeOf? : Char → Option Edge
  | 'A' => some .textStart
  | 'z' => some .textEnd
  | 'B' => some .noWord
  | '<' => some .wordStart
  | '>' => some .wordEnd
  | _ => none

/-- The class that a letter after a backslash stands for. -/
def letterClassOf? : Char → Option LetterClass
  | 'd' | 'D' => some .digits
  | 's' | 'S' => some .blanks
  | 'w' | 'W' => some .words
  | _ => none

/-- Reads an escape; the rest begins with the backslash. -/
def readEscape (s : Scope) (rest : List Char) : Reading (Atom × List Char) := do
  let start := s.place rest
  match rest.tail with
  | [] => fail .escapeEnd start s.size
  | c :: next =>
    let span : Span := ⟨start, start + 2⟩
    if '0' ≤ c ∧ c ≤ '9' then fail .backreference start (start + 2)
    else if c = 'x' ∨ c = 'u' ∨ c = 'U' then
      let (char, isByte, after) ← readHex s c (c :: next)
      return (.literal ⟨s.span rest after, char, isByte⟩, after)
    else if c = 'p' ∨ c = 'P' then
      let (query, after) ← readProperty s (c :: next)
      return (.property (s.span rest after) (c = 'P') query, after)
    else if c = 'b' then
      let (edge, after) ← readBoundary s start next
      return (.edge (s.span rest after) edge, after)
    else match letterClassOf? c with
      | some kind => return (.letter span c.isUpper kind, next)
      | none =>
        if isEscapable c then return (.literal ⟨span, c, false⟩, next)
        else match controlOf? c, edgeOf? c with
          | some char, _ => return (.literal ⟨span, char, false⟩, next)
          | none, some edge => return (.edge span edge, next)
          | none, none => fail .escapeUnknown start (start + 2)

/-! ## Classes -/

/-- Classes with a name between colons. -/
def namedClass? (name : List Char) : Option Ranges :=
  match String.ofList name with
  | "alnum" => some [(0x30, 0x39), (0x41, 0x5A), (0x61, 0x7A)]
  | "alpha" => some [(0x41, 0x5A), (0x61, 0x7A)]
  | "ascii" => some [(0x0, 0x7F)]
  | "blank" => some [(0x9, 0x9), (0x20, 0x20)]
  | "cntrl" => some [(0x0, 0x1F), (0x7F, 0x7F)]
  | "digit" => some [(0x30, 0x39)]
  | "graph" => some [(0x21, 0x7E)]
  | "lower" => some [(0x61, 0x7A)]
  | "print" => some [(0x20, 0x7E)]
  | "punct" => some [(0x21, 0x2F), (0x3A, 0x40), (0x5B, 0x60), (0x7B, 0x7E)]
  | "space" => some [(0x9, 0xD), (0x20, 0x20)]
  | "upper" => some [(0x41, 0x5A)]
  | "word" => some asciiWord
  | "xdigit" => some [(0x30, 0x39), (0x41, 0x46), (0x61, 0x66)]
  | _ => none

/-- A named class at the start of the rest, which begins with a bracket. -/
def readNamedClass? (s : Scope) (rest : List Char) : Option (ClassBody × List Char) :=
  match rest with
  | '[' :: ':' :: more =>
    let (negated, more) := match more with
      | '^' :: after => (true, after)
      | _ => (false, more)
    match more.dropWhile (· != ':') with
    | ':' :: ']' :: after =>
      (namedClass? (more.takeWhile (· != ':'))).map (fun ranges =>
        (.named (s.span rest after) negated ranges, after))
    | _ => none
  | _ => none

/-- The operation at the start of the rest. -/
def classOp? : List Char → Option (ClassOp × List Char)
  | '&' :: '&' :: rest => some (.inter, rest)
  | '-' :: '-' :: rest => some (.diff, rest)
  | '~' :: '~' :: rest => some (.symmDiff, rest)
  | _ => none

/-- Reads one end of a range in a class. -/
def readClassAtom (s : Scope) (rest : List Char) : Reading (Atom × List Char) := do
  match rest with
  | [] => fail .classUnclosed s.size s.size
  | '\\' :: _ => readEscape s rest
  | c :: after => return (.literal ⟨s.span rest after, c, false⟩, after)

/-- An atom as an item of a class, where a condition cannot stand. -/
def Atom.asItem : Atom → Reading ClassBody
  | .edge span _ => fail .classEscape span.start span.stop
  | atom => return .atom atom

/-- An atom as an end of a range, which has to be a character. -/
def Atom.asEnd : Atom → Reading Literal
  | .literal l => return l
  | atom => fail .classRangeLiteral atom.span.start atom.span.stop

/-- Reads an item or a range of a class; `opened` is the span of the class so far. -/
def readClassRange (s : Scope) (opened : Span) (rest : List Char) :
    Reading (ClassBody × List Char) := do
  let (first, after) ← readClassAtom s rest
  let after := s.skip after
  match after with
  | [] => fail .classUnclosed opened.start opened.stop
  | c :: _ =>
    if c != '-' || s.peek? after == some ']' || s.peek? after == some '-' then
      return (← first.asItem, after)
    match s.advance after with
    | [] => fail .classUnclosed opened.start opened.stop
    | next =>
      let (last, after) ← readClassAtom s next
      let low ← first.asEnd
      let high ← last.asEnd
      let span : Span := ⟨low.span.start, high.span.stop⟩
      if high.char < low.char then fail .classRange span.start span.stop
      else return (.range span low high, after)

/-- A character of a class that stands for itself. -/
def plainItem (s : Scope) (rest : List Char) (c : Char) : ClassBody :=
  .atom (.literal ⟨s.span rest rest.tail, c, false⟩)

/-- Reads hyphens at the start of a class that is opened at a place. -/
def leadingHyphens (s : Scope) (start : Nat) : Nat → List Char →
    Reading (List ClassBody × List Char)
  | fuel + 1, '-' :: rest =>
    match s.skip rest with
    | [] => fail .classUnclosed start start
    | next => do
      let (more, after) ← leadingHyphens s start fuel next
      return (plainItem s ('-' :: rest) '-' :: more, after)
  | _, rest => return ([], rest)

/-- Reads the start of a class up to its first item: whether it is negated, where its items
begin, the items that can only stand there, and the rest. -/
def readClassStart (s : Scope) (rest : List Char) :
    Reading (Bool × Nat × List ClassBody × List Char) := do
  let start := s.place rest
  let inner := s.advance rest
  if inner.isEmpty then fail .classUnclosed start s.size
  let negated := inner.head? == some '^'
  let inner := if negated then s.advance inner else inner
  if inner.isEmpty then fail .classUnclosed start s.size
  let (hyphens, after) ← leadingHyphens s start inner.length inner
  if hyphens.isEmpty && inner.head? == some ']' then
    let next := s.advance inner
    if next.isEmpty then fail .classUnclosed start s.size
    return (negated, s.place inner, [plainItem s inner ']'], next)
  return (negated, s.place inner, hyphens, after)

/-- Applies the operation that waits for its right side. -/
def settle (waiting : Option (ClassOp × ClassBody)) (right : ClassBody) : ClassBody :=
  match waiting with
  | none => right
  | some (op, left) => .op ⟨left.span.start, right.span.stop⟩ op left right

/-- The items of a class so far, the last one first, and where they begin. -/
structure ClassRow where
  /-- Where the items begin. -/
  start : Nat
  /-- The items, the last one first. -/
  items : List ClassBody

/-- The items as one. -/
def ClassRow.body (row : ClassRow) : ClassBody := .ofItems row.start row.items.reverse

/-- Adds an item. -/
def ClassRow.push (row : ClassRow) (item : ClassBody) : ClassRow :=
  { row with items := item :: row.items }

mutual

/-- Reads a class: whether it is negated, what it holds, and the rest.  What is read begins with
its bracket. -/
def readClass (s : Scope) : Nat → List Char → Reading (Bool × ClassBody × List Char)
  | 0, rest => fail .classUnclosed (s.place rest) (s.place rest)
  | fuel + 1, rest => do
    let (negated, start, items, inner) ← readClassStart s rest
    let (body, after) ← readClassItems s fuel (s.span rest inner) none ⟨start, items.reverse⟩ inner
    return (negated, body, after)

/-- Reads the items of a class up to its closing bracket. -/
def readClassItems (s : Scope) : Nat → Span → Option (ClassOp × ClassBody) → ClassRow →
    List Char → Reading (ClassBody × List Char)
  | 0, opened, _, _, _ => fail .classUnclosed opened.start opened.stop
  | fuel + 1, opened, waiting, row, rest => do
    let rest := s.skip rest
    match rest with
    | [] => fail .classUnclosed opened.start opened.stop
    | ']' :: after => return (settle waiting row.body, after)
    | '[' :: _ =>
      match readNamedClass? s rest with
      | some (item, after) => readClassItems s fuel opened waiting (row.push item) after
      | none =>
        let (negated, body, after) ← readClass s fuel rest
        let item := .bracket (s.span rest after) negated body
        readClassItems s fuel opened waiting (row.push item) after
    | _ =>
      match classOp? rest with
      | some (op, after) =>
        readClassItems s fuel opened (some (op, settle waiting row.body)) ⟨s.place after, []⟩ after
      | none =>
        let (item, after) ← readClassRange s opened rest
        readClassItems s fuel opened waiting (row.push item) after

end

/-! ## Groups -/

/-- Whether a letter is one of a flag. -/
def isFlag (c : Char) : Bool := ['i', 'm', 's', 'U', 'u', 'R', 'x'].contains c

/-- Whether flags switch the one of a letter on or off, if they mention it. -/
def FlagLetters.find? (letters : FlagLetters) (c : Char) : Option Bool :=
  (List.find? (·.1 == c) letters).map (·.2)

/-- Reads flags up to a colon or parenthesis; `seen` has the letters and minus signs so far with
their places, the last one first. -/
def readFlags (s : Scope) (seen : List (Char × Nat)) : List Char → Reading (FlagLetters × List Char)
  | [] => fail .flagEnd s.size s.size
  | c :: rest => do
    let place := s.place (c :: rest)
    if c = ':' ∨ c = ')' then
      match seen with
      | ('-', minus) :: _ => fail .flagDangling minus (minus + 1)
      | _ => return ([], c :: rest)
    else if c = '-' then
      match seen.find? (·.1 == '-') with
      | some (_, p) => fail .flagRepeatedNegation place (place + 1) (some ⟨p, p + 1⟩)
      | none => readFlags s ((c, place) :: seen) rest
    else if !isFlag c then fail .flagUnknown place (place + 1)
    else match seen.find? (·.1 == c) with
      | some (_, p) => fail .flagDuplicate place (place + 1) (some ⟨p, p + 1⟩)
      | none => do
        let (letters, after) ← readFlags s ((c, place) :: seen) rest
        return ((c, !seen.any (·.1 == '-')) :: letters, after)

/-- Whether a group name may go on with the character. -/
def inGroupName (first : Bool) (c : Char) : Bool :=
  if first then c == '_' || isAlphabetic c
  else c == '_' || c == '.' || c == '[' || c == ']' || isAlphanumeric c

/-- Reads a group name up to its closing angle bracket. -/
def readGroupName (s : Scope) (first : Bool) : List Char → Reading (List Char × List Char)
  | [] => fail .nameEnd s.size s.size
  | c :: rest =>
    if c = '>' then return ([], rest)
    else if inGroupName first c then do
      let (name, after) ← readGroupName s false rest
      return (c :: name, after)
    else fail .nameInvalid (s.place (c :: rest)) (s.place (c :: rest) + 1)

/-- Where the parts of a group or of the whole pattern have got to. -/
structure Level where
  /-- Where its first alternative begins. -/
  start : Nat
  /-- The finished alternatives, the last one first. -/
  done : List Syntax
  /-- Where the alternative begins that is being read. -/
  rowStart : Nat
  /-- Its parts, the last one first. -/
  parts : List Syntax

namespace Level

/-- At a place where nothing has been read. -/
def fresh (start : Nat) : Level := ⟨start, [], start, []⟩

/-- Adds a part. -/
def push (l : Level) (part : Syntax) : Level := { l with parts := part :: l.parts }

/-- The alternative being read, which ends at a place. -/
def row (l : Level) (stop : Nat) : Syntax := .ofRow ⟨l.rowStart, stop⟩ l.parts.reverse

/-- Ends an alternative at a place and begins another one after its bar. -/
def next (l : Level) (stop : Nat) : Level :=
  { l with done := l.row stop :: l.done, rowStart := stop + 1, parts := [] }

/-- All alternatives, the last of which ends at a place. -/
def finish (l : Level) (stop : Nat) : Syntax :=
  .ofChoice ⟨l.start, stop⟩ (l.row stop :: l.done).reverse

end Level

/-- An open group. -/
structure Group where
  /-- The place of its opening parenthesis. -/
  opened : Nat
  /-- The flags that hold in it; without them it remembers what it matches. -/
  letters : Option FlagLetters
  /-- Whether blanks are skipped around it. -/
  verbose : Bool
  /-- What stands before it. -/
  outside : Level

/-- The group as a part. -/
def Group.part (g : Group) (stop : Nat) (body : Syntax) : Syntax :=
  match g.letters with
  | none => .capture ⟨g.opened, stop⟩ body
  | some letters => .group ⟨g.opened, stop⟩ letters body

/-- Where the reader stands. -/
structure Place where
  /-- The rest of the pattern. -/
  rest : List Char
  /-- Whether blanks and comments are skipped. -/
  verbose : Bool := false
  /-- The innermost group, or the whole pattern. -/
  level : Level := .fresh 0
  /-- The groups around, the innermost first. -/
  groups : List Group := []
  /-- The group names so far. -/
  names : List (List Char × Span) := []

/-- Adds a part. -/
def Place.push (p : Place) (part : Syntax) (rest : List Char) : Place :=
  { p with level := p.level.push part, rest }

/-- Opens a group. -/
def Place.enter (p : Place) (s : Scope) (opened : Nat) (letters : Option FlagLetters)
    (rest : List Char) : Place :=
  { p with
    rest
    verbose := (letters.bind (·.find? 'x')).getD p.verbose
    level := .fresh (s.place rest)
    groups := ⟨opened, letters, p.verbose, p.level⟩ :: p.groups }

/-- Reads what follows an opening parenthesis. -/
def readGroup (s : Scope) (p : Place) : Reading Place := do
  let opened := s.place p.rest
  let inner := s.advance p.rest
  match inner with
  | '?' :: '=' :: _ | '?' :: '!' :: _ => fail .lookAround opened (s.place inner + 2)
  | '?' :: '<' :: '=' :: _ | '?' :: '<' :: '!' :: _ => fail .lookAround opened (s.place inner + 3)
  | '?' :: 'P' :: '<' :: rest => named opened rest
  | '?' :: '<' :: rest => named opened rest
  | '?' :: [] => fail .groupUnclosed opened (opened + 1)
  | '?' :: rest =>
    let (letters, after) ← readFlags s [] rest
    match after with
    | ')' :: next =>
      if rest.head? = some ')' then fail .countMissing (s.place inner) (s.place inner)
      else
        let p := p.push (.flags ⟨opened, s.place next⟩ letters) next
        return { p with verbose := (letters.find? 'x').getD p.verbose }
    | _ => return p.enter s opened (some letters) after.tail
  | _ => return p.enter s opened none inner
where
  /-- Reads the name of a group. -/
  named (opened : Nat) (rest : List Char) : Reading Place := do
    let start := s.place rest
    let (name, after) ← readGroupName s true rest
    let span : Span := ⟨start, start + name.length⟩
    if name.isEmpty then fail .nameEmpty start start
    match p.names.find? (·.1 == name) with
    | some (_, other) => fail .nameDuplicate span.start span.stop (some other)
    | none => return { p.enter s opened none after with names := (name, span) :: p.names }

/-- Closes the innermost group. -/
def closeGroup (s : Scope) (p : Place) : Reading Place := do
  let stop := s.place p.rest
  match p.groups with
  | [] => fail .groupUnopened stop (stop + 1)
  | g :: outer =>
    return { p with
      rest := p.rest.tail
      verbose := g.verbose
      level := g.outside.push (g.part (stop + 1) (p.level.finish stop))
      groups := outer }

/-! ## Counts -/

/-- Drops a question mark, which asks for fewer repetitions. -/
def dropLazy : List Char → List Char
  | '?' :: rest => rest
  | rest => rest

/-- The last part, which is to be repeated; `start` is the place of the operator. -/
def Place.repeated (p : Place) (start : Nat) : Reading Syntax :=
  match p.level.parts with
  | [] => fail .countMissing start start
  | part :: _ => if part.isRepeatable then return part else fail .countMissing start start

/-- Repeats the last part. -/
def Place.repeatLast (s : Scope) (p : Place) (least : Nat) (most : Option Nat)
    (rest : List Char) : Reading Place := do
  let body ← p.repeated (s.place p.rest)
  let count := .count ⟨body.span.start, s.place rest⟩ least most body
  return { p with level := { p.level with parts := count :: p.level.parts.tail }, rest }

/-- The number at the start of the rest, if there is one, and what follows it. -/
def readDecimal (s : Scope) (rest : List Char) : Reading Nat × List Char :=
  let digitsAt := rest.dropWhile isBlank
  let (digits, after) := takeWhileSkipping s Decimal.isDigit digitsAt.length digitsAt
  let next := after.dropWhile isBlank
  let start := s.place digitsAt
  let result : Reading Nat :=
    match Decimal.readNat? digits with
    | none => fail .countEmpty start (s.place after)
    | some n => if n < twoTo 32 then return n else fail .decimalInvalid start (s.place after)
  (result, next)

/-- Reads a count; the rest begins with its brace. -/
def readCount (s : Scope) (p : Place) : Reading Place := do
  let start := s.place p.rest
  let _ ← p.repeated start
  let inner := s.advance p.rest
  if inner.isEmpty then fail .countUnclosed start s.size
  let (least, after) := readDecimal s inner
  match after with
  | [] => fail .countUnclosed start s.size
  | ',' :: _ =>
    let next := s.advance after
    match next with
    | [] => fail .countUnclosed start s.size
    | '\x7d' :: _ => finish start (← least) none next
    | _ =>
      let low ← least
      let (most, beyond) := readDecimal s next
      let high ← most
      finish start low (some high) beyond
  | _ =>
    let exact ← least
    finish start exact (some exact) after
where
  /-- Reads the closing brace. -/
  finish (start least : Nat) (most : Option Nat) (rest : List Char) : Reading Place := do
    match rest with
    | '\x7d' :: _ =>
      let after := dropLazy (s.advance rest)
      if most.any (· < least) then fail .countRange start (s.place after)
      else p.repeatLast s least most after
    | _ => fail .countUnclosed start (s.place rest)

/-! ## Patterns -/

/-- Reads the next part of the pattern. -/
def readPart (s : Scope) (p : Place) : Reading Place := do
  let start := s.place p.rest
  let span : Span := ⟨start, start + 1⟩
  match p.rest with
  | [] => return p
  | '(' :: _ => readGroup s p
  | ')' :: _ => closeGroup s p
  | '|' :: rest => return { p with rest, level := p.level.next start }
  | '[' :: _ =>
    let (negated, body, after) ← readClass s (2 * p.rest.length) p.rest
    return p.push (.bracket (s.span p.rest after) negated body) after
  | '?' :: rest => p.repeatLast s 0 (some 1) (dropLazy rest)
  | '*' :: rest => p.repeatLast s 0 none (dropLazy rest)
  | '+' :: rest => p.repeatLast s 1 none (dropLazy rest)
  | '\x7b' :: _ => readCount s p
  | '\\' :: _ =>
    let (atom, after) ← readEscape s p.rest
    return p.push (.atom atom) after
  | '.' :: rest => return p.push (.atom (.dot span)) rest
  | '^' :: rest => return p.push (.atom (.edge span .lineStart)) rest
  | '$' :: rest => return p.push (.atom (.edge span .lineEnd)) rest
  | c :: rest => return p.push (.atom (.literal ⟨span, c, false⟩)) rest

/-- Reads the rest of the pattern, part by part; every part takes at least one character. -/
def readParts (size : Nat) : Nat → Place → Reading Syntax
  | 0, p => return p.level.finish size
  | fuel + 1, p => do
    let s : Scope := ⟨size, p.verbose⟩
    let p := { p with rest := s.skip p.rest }
    if p.rest.isEmpty then
      match p.groups with
      | [] => return p.level.finish size
      | g :: _ => fail .groupUnclosed g.opened (g.opened + 1)
    else readParts size fuel (← readPart s p)

/-- Reads a pattern. -/
def Syntax.read (pattern : List Char) : Reading Syntax :=
  readParts pattern.length (pattern.length + 1) { rest := pattern }

end Runbook.Pattern
