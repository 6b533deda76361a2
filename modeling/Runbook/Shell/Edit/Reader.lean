import Runbook.Shell.Edit.Syntax

/-!
# Reading scripts of edits

Reads the steps of a script one after the other.

* `readDelimited?` reads the text up to a mark, and `unescape` the escapes in it;
* `readSelection` reads which lines a step is for, and `readAction` what it does;
* `Step.readAll` reads a script.
-/

namespace Runbook.Shell.Edit

/-- Reads something at the beginning of a text; the rest is left. -/
abbrev Reader (α : Type) := List Char → Except Mistake (α × List Char)

/-- Says what is wrong with the script before its rest. -/
def wrong {α : Type} (fault : Fault) (rest : List Char) : Except Mistake α :=
  .error ⟨fault, some rest.length⟩

/-- Whether a character is a blank. -/
def isBlank (c : Char) : Bool := c = ' ' || c = '\t'

/-- Whether a character is a blank or ends a line. -/
def isSpace (c : Char) : Bool := c = ' ' || ('\t' ≤ c && c ≤ '\r')

/-- The rest after blanks. -/
def skipBlanks (cs : List Char) : List Char := cs.dropWhile isBlank

/-- The number that the text begins with, and the rest. -/
def splitNumber (cs : List Char) : Nat × List Char :=
  let ds := cs.takeWhile Decimal.isDigit
  (Decimal.natOfDigits ds, cs.drop ds.length)

/-! ## Texts -/

/-- What a text is read for. -/
inductive TextUse where
  /-- A pattern: a mark inside a set does not end it. -/
  | pattern
  /-- Characters that are put in place of something. -/
  | filling
  deriving DecidableEq, Repr

/-- The end of a set that has begun, or nothing if it does not end on the line: the characters up to
its bracket, and the rest.  `first` says that a bracket does not end it yet, and `fuel` is more than
the length of the text. -/
def splitSet? : (fuel : Nat) → (first : Bool) → List Char → Option (List Char × List Char)
  | 0, _, _ => none
  | fuel + 1, first, cs =>
    match cs with
    | [] | '\n' :: _ => none
    | ']' :: rest =>
      if first then (splitSet? fuel false rest).map (fun (text, rest) => (']' :: text, rest))
      else some ([']'], rest)
    | '[' :: c :: rest =>
      if c = ':' || c = '.' || c = '=' then
        match LinePattern.readMarked c rest with
        | .ok (name, left) =>
          (splitSet? fuel false left).map (fun (text, rest) =>
            ('[' :: c :: name ++ [c, ']'] ++ text, rest))
        | .error _ => none
      else (splitSet? fuel false (c :: rest)).map (fun (text, rest) => ('[' :: text, rest))
    | '\\' :: 'n' :: rest =>
      (splitSet? fuel false rest).map (fun (text, rest) => ('\n' :: text, rest))
    | c :: rest => (splitSet? fuel false rest).map (fun (text, rest) => (c :: text, rest))

/-- The text up to a mark, and the rest; nothing if the line ends before.  After a backslash a mark
belongs to the text, and a line end too; an ampersand stays escaped in what is put in.  `fuel` is
more than the length of the text. -/
def readDelimited? (use : TextUse) (mark : Char) : (fuel : Nat) → List Char →
    Option (List Char × List Char)
  | 0, _ => none
  | fuel + 1, cs =>
    let andMore (front : List Char) (rest : List Char) : Option (List Char × List Char) :=
      (readDelimited? use mark fuel rest).map (fun (text, rest) => (front ++ text, rest))
    match cs with
    | [] | '\n' :: _ | ['\\'] => none
    | '\\' :: c :: rest =>
      if c = mark && mark ≠ '\\' then
        andMore (if c = '&' && use = .filling then ['\\', c] else [c]) rest
      else if c = 'n' && use = .pattern then andMore ['\n'] rest
      else if c = '\n' && use = .pattern then andMore ['\n'] rest
      else andMore ['\\', c] rest
    | c :: rest =>
      if c = mark then some ([], rest)
      else if c = '[' && use = .pattern then
        let isNegated := rest.head? = some '^'
        let front := if isNegated then ['[', '^'] else ['[']
        match splitSet? (rest.length + 1) true (if isNegated then rest.drop 1 else rest) with
        | some (text, rest) => andMore (front ++ text) rest
        | none => none
      else andMore [c] rest

/-- The character of an escape of one letter. -/
def letterEscape? (c : Char) : Option Char :=
  match c with
  | 'a' => some '\x07'
  | 'f' => some '\x0c'
  | 'n' => some '\n'
  | 'r' => some '\r'
  | 't' => some '\t'
  | 'v' => some '\x0b'
  | _ => none

/-- The character that an escape with a number stands for, and the rest: up to two digits of base
16, or three of base 8 or 10. -/
def numberEscape? (kind : Char) (cs : List Char) : Option (Char × List Char) :=
  let read (base limit : Nat) : Option (Char × List Char) :=
    let isIn (c : Char) : Bool := (Decimal.readNatIn? base [c]).isSome
    let ds := (cs.take limit).takeWhile isIn
    (Decimal.readNatIn? base ds).map (fun n => (Char.ofNat (n % 256), cs.drop ds.length))
  match kind with
  | 'd' => read 10 3
  | 'o' => read 8 3
  | 'x' => read 16 2
  | _ => none

/-- A text with its escapes read; a backslash before any other character stays.  Characters that are
to be protected get one if a number stands for them.  `fuel` is more than the length of the text. -/
def unescapeFrom (isProtected : Char → Bool) : (fuel : Nat) → List Char → List Char
  | 0, cs => cs
  | _ + 1, [] => []
  | fuel + 1, '\\' :: c :: rest =>
    match numberEscape? c rest, letterEscape? c with
    | some (d, rest), _ =>
      (if isProtected d then ['\\', d] else [d]) ++ unescapeFrom isProtected fuel rest
    | none, some d => d :: unescapeFrom isProtected fuel rest
    | none, none =>
      match c, rest with
      | 'c', d :: rest => Char.ofNat (d.toUpper.toNat ^^^ 64) :: unescapeFrom isProtected fuel rest
      | c, rest => '\\' :: c :: unescapeFrom isProtected fuel rest
  | fuel + 1, c :: rest => c :: unescapeFrom isProtected fuel rest

/-- A text with its escapes read. -/
def unescape (isProtected : Char → Bool) (cs : List Char) : List Char :=
  unescapeFrom isProtected (cs.length + 1) cs

/-- What is searched for; no text stands for the pattern that was used last. -/
def readQuest (extended : Bool) (mode : SearchMode) (text : List Char) :
    Except Fault Quest :=
  if text.isEmpty then .ok ⟨none, mode⟩
  else match LinePattern.read ⟨extended, false⟩ (unescape (fun _ => false) text) with
    | .ok pattern => .ok ⟨some pattern, mode⟩
    | .error fault => .error (.pattern fault)

/-! ## Addresses -/

/-- The options of an address, and the rest. -/
def searchMode : SearchMode → List Char → SearchMode × List Char
  | mode, cs =>
    let flags := cs.takeWhile (fun c => isBlank c || c = 'I' || c = 'M')
    (⟨mode.fold || flags.contains 'I', mode.lines || flags.contains 'M'⟩, cs.drop flags.length)

/-- Reads the pattern of an address after its mark. -/
def readHolding (extended : Bool) (mark : Char) : Reader Address := fun cs =>
  match readDelimited? .pattern mark (cs.length + 1) cs with
  | none => wrong .openAddress []
  | some (text, rest) =>
    let (mode, rest) := searchMode ⟨false, false⟩ rest
    match readQuest extended mode text with
    | .ok quest => .ok (.holding quest, rest)
    | .error fault => wrong fault rest

/-- Reads an address, if there is one. -/
def readAddress? (extended : Bool) (cs : List Char) :
    Except Mistake (Option (Address × List Char)) :=
  match cs with
  | '/' :: rest => some <$> readHolding extended '/' rest
  | '\\' :: mark :: rest => some <$> readHolding extended mark rest
  | '$' :: rest => .ok (some (.last, rest))
  | c :: _ =>
    if Decimal.isDigit c then
      let (number, rest) := splitNumber cs
      match skipBlanks rest with
      | '~' :: rest =>
        let (step, rest) := splitNumber (skipBlanks rest)
        .ok (some (if step = 0 then .line number else .every number step, rest))
      | _ => .ok (some (.line number, rest))
    else .ok none
  | [] => .ok none

/-- Reads the end of a range. -/
def readRangeEnd (extended : Bool) : Reader RangeEnd := fun cs =>
  match cs with
  | '+' :: rest =>
    let (count, rest) := splitNumber (skipBlanks rest)
    .ok (.after count, rest)
  | '~' :: rest =>
    let (factor, rest) := splitNumber (skipBlanks rest)
    .ok (.multiple factor, rest)
  | cs => do
    match ← readAddress? extended cs with
    | some (address, rest) => return (.at_ address, rest)
    | none => wrong .badComma (cs.drop 1)

/-- Whether a range can begin before the first line: only one that ends at a pattern can. -/
def startsAtZero (first : Address) (stop : Option RangeEnd) : Bool :=
  match first, stop with
  | .line 0, some (.at_ (.holding _)) => false
  | .line 0, _ => true
  | _, _ => false

/-- Reads which lines a step is for. -/
def readSelection (extended : Bool) : Reader Selection := fun cs => do
  let (first, stop, rest) ← match cs with
    | '+' :: rest | '~' :: rest => wrong .badFirst (splitNumber (skipBlanks rest)).2
    | cs =>
      match ← readAddress? extended cs with
      | none => pure (none, none, cs)
      | some (first, rest) =>
        match skipBlanks rest with
        | ',' :: rest =>
          let (stop, rest) ← readRangeEnd extended (skipBlanks rest)
          if startsAtZero first (some stop) then wrong .lineZero ((skipBlanks rest).drop 1)
          pure (some first, some stop, skipBlanks rest)
        | rest =>
          if startsAtZero first none then wrong .lineZero (rest.drop 1)
          pure (some first, none, rest)
  match rest with
  | '!' :: rest =>
    match skipBlanks rest with
    | '!' :: rest => wrong .twoNegations rest
    | rest => return (⟨first, stop, true⟩, rest)
  | rest => return (⟨first, stop, false⟩, rest)

/-! ## Commands -/

/-- Reads the end of a command. -/
def readEnd : Reader Unit := fun cs =>
  match skipBlanks cs with
  | [] => .ok ((), [])
  | '\n' :: rest | ';' :: rest => .ok ((), rest)
  | '\x7d' :: rest => .ok ((), '\x7d' :: rest)
  | '#' :: rest => .ok ((), '#' :: rest)
  | _ :: rest => wrong .junk rest

/-- The name of a label, and the rest. -/
def splitLabel (cs : List Char) : String × List Char :=
  let cs := skipBlanks cs
  let name := cs.takeWhile (fun c => !isSpace c && c ≠ ';' && c ≠ '\x7d')
  (String.ofList name, cs.drop name.length)

/-- Reads the name of a file, which goes on to the end of the line. -/
def readPath : Reader String := fun cs =>
  let path := (skipBlanks cs).takeWhile (· != '\n')
  if path.isEmpty then wrong .noFile cs
  else .ok (String.ofList path, (skipBlanks cs).drop (path.length + 1))

/-- A text up to a line end that no backslash stands before, and the rest after it; a backslash is
left out, unless what follows it says more. -/
def splitText : List Char → List Char × List Char
  | [] | ['\\'] => ([], [])
  | '\\' :: c :: rest =>
    let (text, rest) := splitText rest
    ('\\' :: c :: text, rest)
  | c :: rest =>
    if c = '\n' then ([], rest)
    else
      let (text, rest) := splitText rest
      (c :: text, rest)

/-- A text without the backslashes in it. -/
def dropBackslashes : List Char → List Char
  | '\\' :: c :: rest => c :: dropBackslashes rest
  | c :: rest => c :: dropBackslashes rest
  | [] => []

/-- Reads the text of a command: on the same line, or after a backslash on the next one. -/
def readText : Reader (List Char) := fun cs =>
  match skipBlanks cs with
  | [] => wrong .noText []
  | cs =>
    let cs := match cs with
      | '\\' :: rest =>
        match skipBlanks rest with
        | '\n' :: rest => rest
        | _ => rest
      | cs => cs
    let (text, rest) := splitText cs
    let text := dropBackslashes (unescape (fun _ => false) text)
    .ok (if cs.isEmpty then [] else text ++ ['\n'], rest)

/-- What is put in place of a match; `fuel` is more than the length of the text. -/
def readFilling : (fuel : Nat) → List Char → List Filling
  | 0, _ => []
  | _ + 1, [] => []
  | fuel + 1, '\\' :: c :: rest =>
    let filling : Filling :=
      if Decimal.isDigit c then .group (c.toNat - '0'.toNat)
      else match c with
        | 'U' => .letters .upper
        | 'L' => .letters .lower
        | 'E' => .letters .asIs
        | 'u' => .nextLetter .upper
        | 'l' => .nextLetter .lower
        | c => .char c
    filling :: readFilling fuel rest
  | fuel + 1, '&' :: rest => .group 0 :: readFilling fuel rest
  | fuel + 1, c :: rest => .char c :: readFilling fuel rest

/-- The largest number of a group that is put in. -/
def lastGroup (filling : List Filling) : Nat :=
  filling.foldl (fun n part => match part with
    | .group k => max n k
    | _ => n) 0

/-- The options of a replacement, as far as they have been read. -/
structure ReplaceOptions where
  /-- How the pattern is searched for. -/
  mode : SearchMode
  /-- The number of the first match that is replaced, if it is given. -/
  nth : Option Nat
  /-- Whether those after it are replaced too. -/
  onwards : Bool
  /-- Whether the line is written. -/
  prints : Bool
  /-- The file that the line is written to. -/
  file : Option String

/-- Reads the options of a replacement, and the end of the command; `fuel` is more than the length
of the text. -/
def readOptions : (fuel : Nat) → ReplaceOptions → Reader ReplaceOptions
  | 0, _, cs => wrong .unknownOption cs
  | fuel + 1, options, cs =>
    match cs with
    | [] => .ok (options, [])
    | '\n' :: rest | ';' :: rest => .ok (options, rest)
    | '\x7d' :: _ | '#' :: _ => .ok (options, cs)
    | ' ' :: rest => readOptions fuel options rest
    | 'i' :: rest | 'I' :: rest =>
      readOptions fuel { options with mode := { options.mode with fold := true } } rest
    | 'm' :: rest | 'M' :: rest =>
      readOptions fuel { options with mode := { options.mode with lines := true } } rest
    | 'p' :: rest =>
      if options.prints then wrong (.twice (quoted "p")) rest
      else readOptions fuel { options with prints := true } rest
    | 'g' :: rest =>
      if options.onwards then wrong (.twice (quoted "g")) rest
      else readOptions fuel { options with onwards := true } rest
    | 'w' :: rest => do
      let (path, rest) ← readPath rest
      return ({ options with file := some path }, rest)
    | c :: rest =>
      if !Decimal.isDigit c then wrong .unknownOption rest
      else if options.nth.isSome then wrong (.twice "number") rest
      else
        let (n, rest) := splitNumber cs
        if n = 0 then wrong .zeroNumber rest
        else readOptions fuel { options with nth := some n } rest

/-- Reads a replacement after its first letter. -/
def readReplacement (extended : Bool) : Reader Replacement := fun cs => do
  match cs with
  | [] => wrong .openReplacement []
  | mark :: cs =>
    match readDelimited? .pattern mark (cs.length + 1) cs with
    | none => wrong .openReplacement []
    | some (pattern, rest) =>
      match readDelimited? .filling mark (rest.length + 1) rest with
      | none => wrong .openReplacement []
      | some (text, rest) =>
        let text := unescape (fun c => c = '&' || c = '\\') text
        let filling := readFilling (text.length + 1) text
        let (options, rest) ← readOptions (rest.length + 1)
          ⟨⟨false, false⟩, none, false, false, none⟩ rest
        match readQuest extended options.mode pattern with
        | .error fault => wrong fault rest
        | .ok quest =>
          let groups := (quest.pattern.map LinePattern.groups).getD 9
          if groups < lastGroup filling then wrong (.unknownGroup (lastGroup filling)) rest
          return (⟨quest, filling, options.nth.getD 1, options.onwards, options.prints,
            options.file⟩, rest)

/-- Reads a translation of characters after its first letter. -/
def readTranslation : Reader (List (Char × Char)) := fun cs => do
  match cs with
  | [] => wrong .openTranslation []
  | mark :: cs =>
    match readDelimited? .filling mark (cs.length + 1) cs with
    | none => wrong .openTranslation []
    | some (source, rest) =>
      match readDelimited? .filling mark (rest.length + 1) rest with
      | none => wrong .openTranslation []
      | some (target, rest) =>
        let plain (cs : List Char) : List Char :=
          dropBackslashes (unescape (· == '\\') cs)
        if (plain source).length ≠ (plain target).length then wrong .lengths rest
        let (_, after) ← readEnd rest
        return ((plain source).zip (plain target), after)

/-- The commands of one letter with nothing after it. -/
def bareAction? (c : Char) : Option Action :=
  match c with
  | '=' => some .number
  | 'd' => some .delete
  | 'D' => some .deleteFirst
  | 'F' => some .fileName
  | 'g' => some (.get false)
  | 'G' => some (.get true)
  | 'h' => some (.hold false)
  | 'H' => some (.hold true)
  | 'n' => some (.next false)
  | 'N' => some (.next true)
  | 'p' => some (.print false)
  | 'P' => some (.print true)
  | 'x' => some .exchange
  | 'z' => some .clear
  | _ => none

/-- Reads what a step does. -/
def readAction (extended : Bool) (selection : Selection) : Reader Action := fun cs => do
  match cs with
  | [] => wrong .noCommand []
  | 's' :: rest => do
    let (replacement, rest) ← readReplacement extended rest
    return (.replace replacement, rest)
  | 'y' :: rest => do
    let (pairs, rest) ← readTranslation rest
    return (.translate pairs, rest)
  | 'a' :: rest => do
    let (text, rest) ← readText rest
    return (.append text, rest)
  | 'i' :: rest => do
    let (text, rest) ← readText rest
    return (.insert text, rest)
  | 'c' :: rest => do
    let (text, rest) ← readText rest
    return (.change text, rest)
  | '\x7b' :: rest => return (.block 0, rest)
  | ':' :: rest =>
    if selection.first.isSome then wrong .addressedLabel rest
    let (name, rest) := splitLabel rest
    if name.isEmpty then wrong .noLabel rest
    return (.label name, rest)
  | 'r' :: rest => do
    let (path, rest) ← readPath rest
    return (.read path false, rest)
  | 'R' :: rest => do
    let (path, rest) ← readPath rest
    return (.read path true, rest)
  | 'w' :: rest => do
    let (path, rest) ← readPath rest
    return (.write path false, rest)
  | 'W' :: rest => do
    let (path, rest) ← readPath rest
    return (.write path true, rest)
  | c :: rest =>
    let labelled (make : Option String → Action) : Except Mistake (Action × List Char) := do
      let (name, rest) := splitLabel rest
      let (_, after) ← readEnd rest
      return (make (if name.isEmpty then none else some name), after)
    let counted (make : Option Nat → Action) : Except Mistake (Action × List Char) := do
      let ds := skipBlanks rest
      let (n, after) := splitNumber ds
      let (_, last) ← readEnd after
      return (make (if ds.length = after.length then none else some n), last)
    match c, bareAction? c with
    | _, some action =>
      let (_, after) ← readEnd rest
      return (action, after)
    | 'b', _ => labelled .jump
    | 't', _ => labelled (.jumpIf true)
    | 'T', _ => labelled (.jumpIf false)
    | 'l', _ => counted .list
    | 'q', _ | 'Q', _ =>
      if selection.stop.isSome then wrong .oneAddress rest
      counted (fun n => .quit (c = 'q') (n.getD 0))
    | c, none => wrong (.unknownCommand c) rest

/-! ## Scripts -/

/-- The steps that have been read, the last one first, and the numbers of the blocks that are open,
the innermost first. -/
structure Steps where
  /-- The steps. -/
  steps : List Step
  /-- The open blocks. -/
  blocks : List Nat

/-- Closes the innermost block: the step that opens it learns where it ends. -/
def Steps.close (s : Steps) : Steps :=
  match s.blocks with
  | [] => s
  | number :: blocks =>
    let stop := s.steps.length
    ⟨s.steps.modify (stop - 1 - number) (fun step => { step with action := .block stop }), blocks⟩

/-- Adds a step. -/
def Steps.add (s : Steps) (selection : Selection) (action : Action) : Steps :=
  let blocks := match action with
    | .block _ => s.steps.length :: s.blocks
    | _ => s.blocks
  ⟨⟨selection, action⟩ :: s.steps, blocks⟩

/-- Reads the steps of a script; `fuel` is more than its length. -/
def readSteps (extended : Bool) : (fuel : Nat) → Steps → List Char → Except Mistake (List Step)
  | 0, _, cs => wrong .noCommand cs
  | fuel + 1, s, cs =>
    match cs.dropWhile (fun c => isSpace c || c = ';') with
    | [] => if s.blocks.isEmpty then .ok s.steps.reverse else .error ⟨.openBlock, none⟩
    | cs => do
      let (selection, rest) ← readSelection extended cs
      match rest with
      | '#' :: rest =>
        if selection.first.isSome then wrong .addressedComment rest
        readSteps extended fuel s (rest.dropWhile (· != '\n'))
      | '\x7d' :: rest =>
        if s.blocks.isEmpty then wrong .closedBlock rest
        if selection.first.isSome then wrong .addressedEnd rest
        let (_, after) ← readEnd rest
        readSteps extended fuel s.close after
      | rest =>
        let (action, rest) ← readAction extended selection rest
        readSteps extended fuel (s.add selection action) rest

/-- Reads a script. -/
def Step.readAll (extended : Bool) (script : List Char) : Except Mistake (List Step) :=
  readSteps extended (script.length + 1) ⟨[], []⟩ script

end Runbook.Shell.Edit
