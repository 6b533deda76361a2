import Runbook.Document.Node
import Runbook.Number.Decimal

/-!
# Tokens of written documents

The first half of reading YAML: a text becomes a row of tokens.  Indentation is told by tokens of
its own, and a key that is only known to be one by the colon after it gets its token put in front
of it afterwards.

* `Token` lists the tokens;
* `Cursor` is a place in the text, with its line and column;
* `Scanner` holds the tokens so far, the open indentations, and for every open bracket the place
  where a key may have begun;
* `tokens?` scans a text, and gives nothing if it is no YAML.
-/

namespace Runbook.Document

/-- A token. -/
inductive Token where
  /-- The end of the text. -/
  | streamEnd
  /-- A version, which must be one that is known. -/
  | version (known : Bool)
  /-- A short form for tags. -/
  | tagShort (handle : String) (expansion : List UInt8)
  /-- Three hyphens. -/
  | documentStart
  /-- Three dots. -/
  | documentEnd
  /-- A list in a new indentation begins. -/
  | blockList
  /-- A map in a new indentation begins. -/
  | blockMap
  /-- An indentation ends. -/
  | blockEnd
  /-- An opening bracket. -/
  | listOpen
  /-- A closing bracket. -/
  | listClose
  /-- An opening brace. -/
  | mapOpen
  /-- A closing brace. -/
  | mapClose
  /-- A hyphen before an item. -/
  | item
  /-- A comma. -/
  | comma
  /-- A key follows. -/
  | key
  /-- A value follows. -/
  | value
  /-- The use of an anchor. -/
  | alias (name : String)
  /-- An anchor. -/
  | anchor (name : String)
  /-- A tag, in its two parts. -/
  | tag (handle : String) (suffix : List UInt8)
  /-- A scalar. -/
  | scalar (text : String) (style : Style)
  deriving DecidableEq, Repr

/-- A place in the text. -/
structure Cursor where
  /-- What follows. -/
  rest : List Char
  /-- The line, from 0. -/
  line : Nat := 0
  /-- The column, from 0. -/
  column : Nat := 0
  /-- The number of characters before. -/
  index : Nat := 0

/-- Whether the character is a space or a tab. -/
def isBlankChar (c : Char) : Bool := c == ' ' || c == '\t'

/-- Whether the character ends a line. -/
def isBreak (c : Char) : Bool :=
  c == '\n' || c == '\r' || c == '\u0085' || c == '\u2028' || c == '\u2029'

/-- Whether the character is blank or ends a line. -/
def isGap (c : Char) : Bool := isBlankChar c || isBreak c

/-- Whether the text begins with a gap or is at its end. -/
def startsGap (cs : List Char) : Bool := cs.head?.all isGap

/-- Whether the character may stand in the name of an anchor. -/
def isNameChar (c : Char) : Bool := c.isAlphanum || c == '_' || c == '-'

/-- Whether the character may stand in a document at all. -/
def isAllowed (c : Char) : Bool :=
  let n := c.toNat
  n == 0x9 || n == 0xA || n == 0xD || (0x20 ≤ n && n ≤ 0x7E) || n == 0x85 ||
    (0xA0 ≤ n && n ≤ 0xFFFD) || 0x10000 ≤ n

namespace Cursor

/-- The next character. -/
def head? (c : Cursor) : Option Char := c.rest.head?

/-- The character after `n` others. -/
def at? (c : Cursor) (n : Nat) : Option Char := c.rest[n]?

/-- Goes over one character within a line. -/
def skip (c : Cursor) : Cursor :=
  match c.rest with
  | [] => c
  | _ :: rest => ⟨rest, c.line, c.column + 1, c.index + 1⟩

/-- Goes over `n` characters within a line. -/
def skips (c : Cursor) (n : Nat) : Cursor :=
  ⟨c.rest.drop n, c.line, c.column + min n c.rest.length, c.index + min n c.rest.length⟩

/-- Goes over a line end. -/
def skipBreak (c : Cursor) : Cursor :=
  match c.rest with
  | '\r' :: '\n' :: rest => ⟨rest, c.line + 1, 0, c.index + 2⟩
  | _ :: rest => ⟨rest, c.line + 1, 0, c.index + 1⟩
  | [] => c

/-- What a line end counts as: a line feed, or one of the two separators, which stay. -/
def breakText (c : Cursor) : List Char :=
  match c.rest with
  | '\u2028' :: _ => ['\u2028']
  | '\u2029' :: _ => ['\u2029']
  | [] => []
  | _ => ['\n']

/-- Goes over characters within a line as long as `ok` holds. -/
def skipWhile (c : Cursor) (ok : Char → Bool) : Cursor :=
  c.skips (c.rest.takeWhile ok).length

/-- Whether three of the character and a gap stand at the start of a line. -/
def isMarker (c : Cursor) (mark : Char) : Bool :=
  c.column == 0 && c.rest.take 3 == [mark, mark, mark] && startsGap (c.rest.drop 3)

/-- Whether a document starts or ends here. -/
def atMarker (c : Cursor) : Bool := c.isMarker '-' || c.isMarker '.'

end Cursor

/-- A place where a key may have begun. -/
structure KeyStart where
  /-- Whether it still may. -/
  possible : Bool := false
  /-- Whether there has to be a key. -/
  required : Bool := false
  /-- The number of tokens before it. -/
  token : Nat := 0
  /-- Its line. -/
  line : Nat := 0
  /-- Its column. -/
  column : Nat := 0
  /-- The number of characters before it. -/
  index : Nat := 0

/-- A scanner. -/
structure Scanner where
  /-- The place it has come to. -/
  at_ : Cursor
  /-- The tokens so far. -/
  tokens : Array Token := #[]
  /-- The column of the innermost indentation, or -1. -/
  indent : Int := -1
  /-- The columns of the indentations around it, the innermost first. -/
  indents : List Int := []
  /-- The number of open brackets and braces. -/
  flow : Nat := 0
  /-- Whether a key may begin here. -/
  keyAllowed : Bool := true
  /-- Where a key may have begun, the innermost bracket first. -/
  keys : List KeyStart := [{}]

/-- What a scan may come to. -/
abbrev Scan := Option Scanner

namespace Scanner

/-- Adds a token. -/
def emit (s : Scanner) (t : Token) : Scanner := { s with tokens := s.tokens.push t }

/-- Adds a token in front of others. -/
def emitAt (s : Scanner) (position : Nat) (t : Token) : Scanner :=
  { s with
    tokens := (s.tokens.extract 0 position).push t ++ s.tokens.extract position s.tokens.size }

/-- Opens an indentation, if the column lies beyond the innermost one. -/
def roll (s : Scanner) (column : Nat) (position : Nat) (t : Token) : Scanner :=
  if s.flow = 0 ∧ s.indent < column then
    { s.emitAt position t with indent := column, indents := s.indent :: s.indents }
  else s

/-- Closes the indentations in the list that lie beyond the column. -/
def unrollFrom (column : Int) (s : Scanner) : List Int → Scanner
  | [] => s
  | outer :: rest =>
    if column < s.indent then
      unrollFrom column { s.emit .blockEnd with indent := outer, indents := rest } rest
    else s

/-- Closes the indentations that lie beyond the column. -/
def unroll (s : Scanner) (column : Int) : Scanner :=
  if s.flow = 0 then unrollFrom column s s.indents else s

/-- The innermost place where a key may have begun. -/
def key (s : Scanner) : KeyStart := s.keys.headD {}

/-- Changes the innermost place where a key may have begun. -/
def setKey (s : Scanner) (k : KeyStart) : Scanner := { s with keys := k :: s.keys.tail }

/-- Gives up keys that lie too far back: on another line, or more than 1024 characters away. -/
def staleKeys (s : Scanner) : Scan := do
  let keys ← s.keys.mapM (fun k =>
    if k.possible && (k.line < s.at_.line || k.index + 1024 < s.at_.index) then
      if k.required then none else some { k with possible := false }
    else some k)
  return { s with keys }

/-- Gives up the innermost key. -/
def removeKey (s : Scanner) : Scan :=
  if s.key.possible && s.key.required then none
  else some (s.setKey { s.key with possible := false })

/-- Notes that a key may begin here. -/
def saveKey (s : Scanner) : Scan :=
  if s.keyAllowed then do
    let required := s.flow = 0 && s.indent == s.at_.column
    let s ← s.removeKey
    return s.setKey ⟨true, required, s.tokens.size, s.at_.line, s.at_.column, s.at_.index⟩
  else some s

/-- The mark for the order of bytes, which may begin a line. -/
def orderMark : Char := '\ufeff'

/-- Goes to the next token: over spaces, comments, line ends, and tabs where no key may begin. -/
def skipGaps : Nat → Scanner → Scanner
  | 0, s => s
  | fuel + 1, s =>
    let tabs := s.flow != 0 || !s.keyAllowed
    let c := s.at_
    let c := if c.column = 0 && c.head? == some orderMark then c.skip else c
    let c := c.skipWhile (fun ch => ch == ' ' || (ch == '\t' && tabs))
    let c := if c.head? == some '#' then c.skipWhile (fun ch => !isBreak ch) else c
    match c.head? with
    | some ch =>
      if isBreak ch then
        skipGaps fuel
          { s with at_ := c.skipBreak, keyAllowed := s.keyAllowed || s.flow == 0 }
      else { s with at_ := c }
    | none => { s with at_ := c }

/-! ## Indicators -/

/-- Adds the token of an indicator and goes over it. -/
def indicator (s : Scanner) (t : Token) (size : Nat := 1) : Scanner :=
  { s.emit t with at_ := s.at_.skips size }

/-- A document start or end. -/
def documentMark (s : Scanner) (t : Token) : Scan := do
  let s ← (s.unroll (-1)).removeKey
  return { s.indicator t 3 with keyAllowed := false }

/-- An opening bracket or brace. -/
def openFlow (s : Scanner) (t : Token) : Scan := do
  let s ← s.saveKey
  return { s.indicator t with keys := {} :: s.keys, flow := s.flow + 1, keyAllowed := true }

/-- A closing bracket or brace. -/
def closeFlow (s : Scanner) (t : Token) : Scan := do
  let s ← s.removeKey
  let s := if s.flow = 0 then s else { s with flow := s.flow - 1, keys := s.keys.tail }
  return { s.indicator t with keyAllowed := false }

/-- A comma. -/
def comma (s : Scanner) : Scan := do
  let s ← s.removeKey
  return { s.indicator .comma with keyAllowed := true }

/-- A hyphen before an item. -/
def item (s : Scanner) : Scan := do
  if s.flow = 0 && !s.keyAllowed then none
  let s := s.roll s.at_.column s.tokens.size .blockList
  let s ← s.removeKey
  return { s.indicator .item with keyAllowed := true }

/-- A question mark before a key. -/
def keyMark (s : Scanner) : Scan := do
  if s.flow = 0 && !s.keyAllowed then none
  let s := s.roll s.at_.column s.tokens.size .blockMap
  let s ← s.removeKey
  return { s.indicator .key with keyAllowed := s.flow == 0 }

/-- A colon before a value. -/
def valueMark (s : Scanner) : Scan :=
  let k := s.key
  if k.possible then
    let s := s.emitAt k.token .key
    let s := s.roll k.column k.token .blockMap
    let s := s.setKey { k with possible := false }
    some { s.indicator .value with keyAllowed := false }
  else if s.flow = 0 && !s.keyAllowed then none
  else
    let s := s.roll s.at_.column s.tokens.size .blockMap
    some { s.indicator .value with keyAllowed := s.flow == 0 }

/-! ## Names, tags and directives -/

/-- An anchor or its use. -/
def name (s : Scanner) (make : String → Token) : Scan := do
  let s ← s.saveKey
  let c := s.at_.skip
  let text := c.rest.takeWhile isNameChar
  let after := c.skips text.length
  let ends := startsGap after.rest || after.head?.any ("?:,]\x7d%@\x60".toList.contains ·)
  if text.isEmpty || !ends then none
  return { s.emit (make (String.ofList text)) with at_ := after, keyAllowed := false }

/-- Whether the character may stand in a tag; brackets and commas may only between angle
brackets. -/
def inTag (verbatim : Bool) (c : Char) : Bool :=
  isNameChar c || ";/?:@&=+$.!~*'()".toList.contains c ||
    (verbatim && ",[]".toList.contains c)

/-- The octet of a percent sign and two digits at the start of a text. -/
def percentOctet? : List Char → Option UInt8
  | '%' :: a :: b :: _ => (Decimal.readNatIn? 16 [a, b]).map Nat.toUInt8
  | _ => none

/-- The number of octets in a row that begins with an octet. -/
def octetCount? (octet : UInt8) : Option Nat :=
  let n := octet.toNat
  if n < 0x80 then some 1
  else if 0xC0 ≤ n ∧ n < 0xE0 then some 2
  else if 0xE0 ≤ n ∧ n < 0xF0 then some 3
  else if 0xF0 ≤ n ∧ n < 0xF8 then some 4
  else none

/-- So many octets that go on with a row. -/
def laterOctets? : Nat → List Char → Option (List UInt8)
  | 0, _ => some []
  | count + 1, cs => do
    let octet ← percentOctet? cs
    if octet.toNat < 0x80 || 0xC0 ≤ octet.toNat then none
    return octet :: (← laterOctets? count (cs.drop 3))

/-- A row of octets, written with percent signs. -/
def octetRow? (cs : List Char) : Option (List UInt8) := do
  let octet ← percentOctet? cs
  return octet :: (← laterOctets? ((← octetCount? octet) - 1) (cs.drop 3))

/-- The octets of a tag from the start of the text, and how many characters they take. -/
def tagOctets (verbatim : Bool) : Nat → List Char → Option (List UInt8 × Nat)
  | fuel + 1, c :: rest =>
    if c = '%' then do
      let row ← octetRow? (c :: rest)
      let (more, n) ← tagOctets verbatim fuel ((c :: rest).drop (3 * row.length))
      return (row ++ more, n + 3 * row.length)
    else if inTag verbatim c then do
      let (more, n) ← tagOctets verbatim fuel rest
      return (c.toNat.toUInt8 :: more, n + 1)
    else some ([], 0)
  | _, _ => some ([], 0)

/-- Reads the octets of a tag, which end before an octet 0; `least` is the least number of
characters. -/
def readTag (verbatim : Bool) (least : Nat) (c : Cursor) : Option (List UInt8 × Cursor) := do
  let (octets, n) ← tagOctets verbatim c.rest.length c.rest
  if n < least then none
  return (octets.takeWhile (· != 0), c.skips n)

/-- The exclamation mark as an octet. -/
def exclamation : UInt8 := 33

/-- The two parts of a tag; the place is that of its exclamation mark. -/
def tagParts (c : Cursor) : Option (List Char × List UInt8 × Cursor) :=
  if c.at? 1 == some '<' then do
    let (suffix, after) ← readTag true 1 (c.skips 2)
    if after.head? != some '>' then none
    return ([], suffix, after.skip)
  else
    let word := c.skip.rest.takeWhile isNameChar
    let mid := c.skips (1 + word.length)
    if mid.head? == some '!' then do
      let (suffix, after) ← readTag false 1 mid.skip
      return ('!' :: word ++ ['!'], suffix, after)
    else do
      let (suffix, after) ← readTag false 0 c.skip
      if suffix.isEmpty then return ([], [exclamation], after)
      return (['!'], suffix, after)

/-- A tag. -/
def tagMark (s : Scanner) : Scan := do
  let s ← s.saveKey
  let (handle, suffix, after) ← tagParts s.at_
  if !(startsGap after.rest || (s.flow != 0 && after.head? == some ',')) then none
  return { s.emit (.tag (String.ofList handle) suffix) with
    at_ := after, keyAllowed := false }

/-- The rest of a line after a directive: nothing but blanks and a comment. -/
def directiveEnd (c : Cursor) : Option Cursor :=
  let c := c.skipWhile isBlankChar
  let c := if c.head? == some '#' then c.skipWhile (fun ch => !isBreak ch) else c
  match c.head? with
  | none => some c
  | some ch => if isBreak ch then some c.skipBreak else none

/-- A version number: two numbers with a point between them. -/
def versionParts (c : Cursor) : Option (Nat × Nat × Cursor) := do
  let major := c.rest.takeWhile Decimal.isDigit
  let mid := c.skips major.length
  if mid.head? != some '.' then none
  let minor := mid.skip.rest.takeWhile Decimal.isDigit
  let after := mid.skip.skips minor.length
  if 9 < major.length || 9 < minor.length then none
  return (← Decimal.readNat? major, ← Decimal.readNat? minor, after)

/-- The handle of a short form for tags. -/
def handlePart (c : Cursor) : Option (List Char × Cursor) :=
  if c.head? != some '!' then none
  else
    let word := c.skip.rest.takeWhile isNameChar
    let after := c.skips (1 + word.length)
    if after.head? == some '!' then some ('!' :: word ++ ['!'], after.skip)
    else if word.isEmpty then some (['!'], after)
    else none

/-- A directive. -/
def directive (s : Scanner) : Scan := do
  let s ← (s.unroll (-1)).removeKey
  let s := { s with keyAllowed := false }
  let c := s.at_.skip
  let word := c.rest.takeWhile isNameChar
  let after := c.skips word.length
  if word.isEmpty || !startsGap after.rest then none
  let after := after.skipWhile isBlankChar
  match String.ofList word with
  | "YAML" =>
    let (major, minor, after) ← versionParts after
    let known := major == 1 && (minor == 1 || minor == 2)
    return { s.emit (.version known) with at_ := ← directiveEnd after }
  | "TAG" =>
    let (handle, after) ← handlePart after
    if !(after.head?.any isBlankChar) then none
    let (expansion, after) ← readTag true 1 (after.skipWhile isBlankChar)
    if !startsGap after.rest then none
    return { s.emit (.tagShort (String.ofList handle) expansion) with
      at_ := ← directiveEnd after }
  | _ => none

/-! ## Scalars -/

/-- Line ends between two lines of a scalar: the first one and those after it. -/
structure Fold where
  /-- Blanks since the last other character of the line. -/
  blanks : List Char := []
  /-- The first line end. -/
  first : List Char := []
  /-- The line ends after it. -/
  others : List Char := []
  /-- Whether there was a line end. -/
  broken : Bool := false

/-- What a gap between two parts of a scalar counts as: one line end as a space, several as one
less, and blanks within a line as they are. -/
def Fold.text (f : Fold) : List Char :=
  if f.broken then
    if f.first == ['\n'] then (if f.others.isEmpty then [' '] else f.others)
    else f.first ++ f.others
  else f.blanks

/-- Reads a gap; `tabsFrom` refuses a tab that stands in for indentation before that column. -/
def readGap (tabsFrom : Int) : Nat → Fold → Cursor → Option (Fold × Cursor)
  | 0, f, c => some (f, c)
  | fuel + 1, f, c =>
    match c.head? with
    | none => some (f, c)
    | some ch =>
      if isBlankChar ch then
        if f.broken then
          if ch == '\t' && (c.column : Int) < tabsFrom then none
          else readGap tabsFrom fuel f c.skip
        else readGap tabsFrom fuel { f with blanks := f.blanks ++ [ch] } c.skip
      else if isBreak ch then
        if f.broken then
          readGap tabsFrom fuel { f with others := f.others ++ c.breakText } c.skipBreak
        else
          readGap tabsFrom fuel { f with blanks := [], first := c.breakText, broken := true }
            c.skipBreak
      else some (f, c)

/-- The character that an escape of one letter stands for. -/
def escape? : Char → Option Char
  | '0' => some '\x00'
  | 'a' => some '\x07'
  | 'b' => some '\x08'
  | 't' => some '\t'
  | '\t' => some '\t'
  | 'n' => some '\n'
  | 'v' => some '\x0b'
  | 'f' => some '\x0c'
  | 'r' => some '\r'
  | 'e' => some '\x1b'
  | ' ' => some ' '
  | '"' => some '"'
  | '/' => some '/'
  | '\\' => some '\\'
  | 'N' => some '\u0085'
  | '_' => some '\u00a0'
  | 'L' => some '\u2028'
  | 'P' => some '\u2029'
  | _ => none

/-- The number of digits after the letter of an escape. -/
def escapeDigits? : Char → Option Nat
  | 'x' => some 2
  | 'u' => some 4
  | 'U' => some 8
  | _ => none

/-- A part of a quoted scalar without gaps: its text, whether it ended in an escaped line end, and
the place after it, which is a gap or the closing quote. -/
def quotedPart (single : Bool) : Nat → List Char → Cursor → Option (List Char × Bool × Cursor)
  | 0, text, c => some (text.reverse, false, c)
  | fuel + 1, text, c =>
    match c.rest with
    | [] => some (text.reverse, false, c)
    | ch :: rest =>
      if isGap ch then some (text.reverse, false, c)
      else if single then
        if ch = '\'' then
          if rest.head? == some '\'' then quotedPart single fuel ('\'' :: text) (c.skips 2)
          else some (text.reverse, false, c)
        else quotedPart single fuel (ch :: text) c.skip
      else if ch = '"' then some (text.reverse, false, c)
      else if ch = '\\' then
        match rest with
        | [] => none
        | e :: _ =>
          if isBreak e then some (text.reverse, true, c.skip.skipBreak)
          else match escapeDigits? e with
            | some n => do
              let digits := (c.rest.drop 2).take n
              if digits.length < n then none
              let code ← Decimal.readNatIn? 16 digits
              if !code.isValidChar then none
              quotedPart single fuel (Char.ofNat code :: text) (c.skips (2 + n))
            | none => do quotedPart single fuel ((← escape? e) :: text) (c.skips 2)
      else quotedPart single fuel (ch :: text) c.skip

/-- The rest of a quoted scalar, from after its opening quote. -/
def quotedText (single : Bool) : Nat → List Char → Cursor → Option (List Char × Cursor)
  | 0, _, _ => none
  | fuel + 1, text, c => do
    if c.atMarker || c.rest.isEmpty then none
    let (part, escaped, c) ← quotedPart single c.rest.length [] c
    if !escaped && (c.rest.head? == some (if single then '\'' else '"')) then
      return (text ++ part, c.skip)
    let start : Fold := if escaped then { broken := true } else {}
    let (fold, c) ← readGap 0 c.rest.length start c
    let gap := if escaped && fold.first.isEmpty then fold.others else fold.text
    quotedText single fuel (text ++ part ++ gap) c

/-- A quoted scalar. -/
def quoted (s : Scanner) (single : Bool) : Scan := do
  let s ← s.saveKey
  let (text, after) ← quotedText single (s.at_.rest.length + 1) [] s.at_.skip
  return { s.emit (.scalar (String.ofList text) .other) with at_ := after, keyAllowed := false }

/-- Whether a plain scalar ends before the rest; none if the rest is a fault. -/
def plainEnds (flow : Bool) : List Char → Option Bool
  | [] => some true
  | c :: rest =>
    if isGap c then some true
    else if flow && c == ':' && rest.head?.any (",?[]\x7b\x7d".toList.contains ·) then none
    else some ((c == ':' && startsGap rest) || (flow && ",[]\x7b\x7d".toList.contains c))

/-- A part of a plain scalar without gaps. -/
def plainPart (flow : Bool) : List Char → Option (List Char)
  | [] => some []
  | c :: rest => do
    if ← plainEnds flow (c :: rest) then return []
    return c :: (← plainPart flow rest)

/-- The rest of a plain scalar: its text, the place after it, and whether a line end was passed
after its last part. -/
def plainText (flow : Bool) (indent : Int) :
    Nat → List Char → Fold → Cursor → Option (List Char × Cursor × Bool)
  | 0, _, _, _ => none
  | fuel + 1, text, gap, c => do
    if c.atMarker || c.head? == some '#' then return (text, c, gap.broken)
    let part ← plainPart flow c.rest
    let after := c.skips part.length
    if part.isEmpty then return (text, c, gap.broken)
    let text := text ++ gap.text ++ part
    if !(after.head?.any isGap) then return (text, after, false)
    let (fold, next) ← readGap indent after.rest.length {} after
    if !flow && (next.column : Int) < indent then return (text, next, fold.broken)
    plainText flow indent fuel text fold next

/-- A plain scalar. -/
def plain (s : Scanner) : Scan := do
  let s ← s.saveKey
  let (text, after, broken) ←
    plainText (s.flow != 0) (s.indent + 1) (s.at_.rest.length + 1) [] {} s.at_
  return { s.emit (.scalar (String.ofList text) .plain) with at_ := after, keyAllowed := broken }

/-- What to do with the line ends at the end of a block scalar. -/
inductive Chomp where
  /-- Drop them. -/
  | strip
  /-- Keep the first. -/
  | clip
  /-- Keep all. -/
  | keep
  deriving DecidableEq

/-- The marks after the indicator of a block scalar: what to do at its end, and its indentation if
it is told. -/
def blockHeader (c : Cursor) : Option (Chomp × Option Nat × Cursor) :=
  let chomp? : Option Char → Option Chomp := fun
    | some '+' => some .keep
    | some '-' => some .strip
    | _ => none
  let digit? (c : Cursor) : Option Nat := c.head?.bind Decimal.digitValue?
  match chomp? c.head? with
  | some chomp =>
    let c := c.skip
    match digit? c with
    | some 0 => none
    | some n => some (chomp, some n, c.skip)
    | none => some (chomp, none, c)
  | none =>
    match digit? c with
    | some 0 => none
    | some n =>
      let c := c.skip
      match chomp? c.head? with
      | some chomp => some (chomp, some n, c.skip)
      | none => some (.clip, some n, c)
    | none => some (.clip, none, c)

/-- Goes over indentation and empty lines in front of a line of a block scalar: the line ends
passed, the largest column seen, and the place.  An indentation of 0 is one yet to be found. -/
def blockBreaks (indent : Nat) : Nat → List Char → Nat → Cursor →
    Option (List Char × Nat × Cursor)
  | 0, breaks, widest, c => some (breaks, widest, c)
  | fuel + 1, breaks, widest, c =>
    let c := c.skips
      (if indent = 0 then (c.rest.takeWhile (· == ' ')).length
       else ((c.rest.take (indent - c.column)).takeWhile (· == ' ')).length)
    let widest := max widest c.column
    if (indent = 0 || c.column < indent) && c.head? == some '\t' then none
    else if c.head?.any isBreak then
      blockBreaks indent fuel (breaks ++ c.breakText) widest c.skipBreak
    else some (breaks, widest, c)

/-- The lines of a block scalar.  `held` is the line end after the last line and `breaks` the line
ends after that one; `blank` says that the last line began with a blank. -/
def blockLines (literal : Bool) (indent : Nat) :
    Nat → List Char → List Char → List Char → Bool → Cursor →
      Option (List Char × List Char × List Char × Cursor)
  | 0, text, held, breaks, _, c => some (text, held, breaks, c)
  | fuel + 1, text, held, breaks, blank, c =>
    if c.column != indent || c.rest.isEmpty then some (text, held, breaks, c)
    else do
      let trailing := c.head?.any isBlankChar
      let joined :=
        if !literal && held == ['\n'] && !blank && !trailing then
          (if breaks.isEmpty then [' '] else breaks)
        else held ++ breaks
      let line := c.rest.takeWhile (fun ch => !isBreak ch)
      let after := c.skips line.length
      let text := text ++ joined ++ line
      let (more, _, next) ← blockBreaks indent (after.rest.length + 1) [] 0 after.skipBreak
      if after.rest.isEmpty then return (text, [], [], after)
      blockLines literal indent fuel text after.breakText more trailing next

/-- A block scalar. -/
def block (s : Scanner) (literal : Bool) : Scan := do
  let s ← s.removeKey
  let (chomp, told, c) ← blockHeader s.at_.skip
  let c ← directiveEnd c
  let least := if s.indent < 0 then 0 else s.indent.toNat
  let fixed := told.map (least + ·)
  let (breaks, widest, c) ← blockBreaks (fixed.getD 0) (c.rest.length + 1) [] 0 c
  let indent := fixed.getD (max (max widest (s.indent + 1).toNat) 1)
  let (text, held, after, c) ← blockLines literal indent (c.rest.length + 1) [] [] breaks false c
  let text := match chomp with
    | .strip => text
    | .clip => text ++ held
    | .keep => text ++ held ++ after
  let style : Style := if literal then .literal else .other
  return { s.emit (.scalar (String.ofList text) style) with at_ := c, keyAllowed := true }

/-! ## The next token -/

/-- Whether a plain scalar can begin with the rest. -/
def startsPlain (flow : Bool) (c : Char) (next : List Char) : Bool :=
  !(isGap c || "-?:,[]\x7b\x7d#&*!|>'\"%@\x60".toList.contains c) ||
    (c == '-' && !(next.head?.any isBlankChar)) ||
    (!flow && (c == '?' || c == ':') && !startsGap next)

/-- Scans the next token; the text is not at its end. -/
def step (s : Scanner) : Scan := do
  let s ← s.staleKeys
  let s := s.unroll s.at_.column
  let flow := s.flow != 0
  match s.at_.rest with
  | [] => some s
  | c :: next =>
    if c = '%' ∧ s.at_.column = 0 then s.directive
    else if s.at_.isMarker '-' then s.documentMark .documentStart
    else if s.at_.isMarker '.' then s.documentMark .documentEnd
    else if c = '[' then s.openFlow .listOpen
    else if c = '\x7b' then s.openFlow .mapOpen
    else if c = ']' then s.closeFlow .listClose
    else if c = '\x7d' then s.closeFlow .mapClose
    else if c = ',' then s.comma
    else if c = '-' ∧ startsGap next then s.item
    else if c = '?' ∧ (flow ∨ startsGap next) then s.keyMark
    else if c = ':' ∧ (flow ∨ startsGap next) then s.valueMark
    else if c = '*' then s.name .alias
    else if c = '&' then s.name .anchor
    else if c = '!' then s.tagMark
    else if c = '|' ∧ !flow then s.block true
    else if c = '>' ∧ !flow then s.block false
    else if c = '\'' then s.quoted true
    else if c = '"' then s.quoted false
    else if startsPlain flow c next then s.plain
    else none

/-- Scans to the end. -/
def run : Nat → Scanner → Option (Array Token)
  | 0, _ => none
  | fuel + 1, s => do
    let s := skipGaps (s.at_.rest.length + 1) s
    if s.at_.rest.isEmpty then
      let end_ : Cursor := if s.at_.column = 0 then s.at_
        else { s.at_ with line := s.at_.line + 1, column := 0 }
      let s ← { s with at_ := end_ }.staleKeys
      let s ← (s.unroll (-1)).removeKey
      return (s.emit .streamEnd).tokens
    else run fuel (← s.step)

end Scanner

/-- The tokens of a text. -/
def tokens? (text : List Char) : Option (Array Token) :=
  if text.all isAllowed then
    Scanner.run (text.length + 2) ⟨{ rest := text }, #[], -1, [], 0, true, [{}]⟩
  else none

end Runbook.Document
