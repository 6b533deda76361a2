import Runbook.Shell.Syntax
import Runbook.Template

/-!
# Reading shell scripts

Reads the commands of a script, a line at a time, so that the lines before a mistake can run.

* `Fault` is a mistake in the script;
* `readParts` reads a word, `readPipeline` and `readSequence` read commands;
* `Nested.at` ties the readers of words and of commands together, which contain each other;
* `readLine` reads the commands of a line.
-/

namespace Runbook.Shell

/-- A mistake in a script. -/
structure Fault where
  /-- What is wrong. -/
  message : String
  /-- The number of characters after it. -/
  left : Nat
  deriving DecidableEq, Repr

/-- Reads something at the beginning of a text; the rest is left. -/
abbrev Reader (α : Type) := List Char → Except Fault (α × List Char)

/-- The line of a mistake in a text. -/
def Fault.line (fault : Fault) (text : List Char) : Nat :=
  (text.take (text.length - fault.left)).count '\n' + 1

/-- Says what is wrong with the script at a place. -/
def wrong {α : Type} (message : String) (rest : List Char) : Except Fault α :=
  .error ⟨"Syntax error: " ++ message, rest.length⟩

/-! ## Characters -/

/-- A backslash. -/
def backslash : Char := '\\'

/-- A back quote. -/
def backquote : Char := '\x60'

/-- Whether a character ends an unquoted word. -/
def endsWord (c : Char) : Bool := " \t\n;&|<>()".toList.contains c

/-- Whether a character is a digit. -/
def isDigit (c : Char) : Bool := '0' ≤ c && c ≤ '9'

/-- Whether a name can begin with a character. -/
def startsName (c : Char) : Bool := Template.isLetter c || c == '_'

/-- Whether a name can have a character. -/
def inName (c : Char) : Bool := startsName c || isDigit c

/-- Whether a character alone names a parameter. -/
def isSpecialName (c : Char) : Bool := "@*#?-$!".toList.contains c

/-- The rest after blanks, line continuations and a comment. -/
def skipBlanks : List Char → List Char
  | ' ' :: rest | '\t' :: rest => skipBlanks rest
  | '\\' :: '\n' :: rest => skipBlanks rest
  | '#' :: rest => rest.dropWhile (· != '\n')
  | cs => cs

/-- The rest after blanks and empty lines; `fuel` is at least the length of the text. -/
def skipLines : Nat → List Char → List Char
  | 0, cs => cs
  | fuel + 1, cs =>
    match skipBlanks cs with
    | '\n' :: rest => skipLines fuel rest
    | cs => cs

/-! ## Tokens in messages -/

/-- The words that have a meaning at the beginning of a command. -/
def reserved : List String :=
  ["!", "\x7b", "\x7d", "case", "do", "done", "elif", "else", "esac", "fi", "for", "if", "then",
    "until", "while"]

/-- The word that the text begins with, if it is plain, and the rest. -/
def plainWord (cs : List Char) : List Char × List Char :=
  (cs.takeWhile (fun c => !endsWord c), cs.dropWhile (fun c => !endsWord c))

/-- The reserved word that the text begins with, and the rest. -/
def reservedWord? (cs : List Char) : Option (String × List Char) :=
  let (word, rest) := plainWord cs
  if reserved.contains (String.ofList word) then some (String.ofList word, rest) else none

/-- A text in double quotes. -/
def doubleQuotes (s : String) : String := "\"" ++ s ++ "\""

/-- What a message calls the next token. -/
def tokenName (cs : List Char) : String :=
  match cs with
  | [] => "end of file"
  | '\n' :: _ => "newline"
  | ';' :: ';' :: _ => doubleQuotes ";;"
  | '&' :: '&' :: _ => doubleQuotes "&&"
  | '|' :: '|' :: _ => doubleQuotes "||"
  | '<' :: _ | '>' :: _ => "redirection"
  | c :: _ =>
    if endsWord c then doubleQuotes (String.singleton c)
    else match reservedWord? cs with
      | some (word, _) => doubleQuotes word
      | none => "word"

/-- The next token cannot be there. -/
def unexpected {α : Type} (cs : List Char) (expecting : Option String) : Except Fault α :=
  wrong (tokenName cs ++ " unexpected" ++
    (match expecting with
      | some token => " (expecting " ++ doubleQuotes token ++ ")"
      | none => "")) cs

/-! ## Words -/

/-- Reads the scripts inside words and the lists inside commands. -/
structure Nested where
  /-- Reads commands up to a token that cannot begin one. -/
  commands : Reader Command

/-- Reads up to a closing bracket. -/
def readClosed (nested : Nested) : Reader Command := fun cs => do
  let (command, rest) ← nested.commands cs
  match rest with
  | ')' :: rest => return (command, rest)
  | rest => unexpected rest (some ")")

/-- The text up to a back quote, and the rest; a backslash there quotes dollar signs, back quotes
and backslashes, and double quotes if the text stands between such. -/
def backquoted? (quoted : Bool) : List Char → Option (List Char × List Char)
  | [] => none
  | '\\' :: c :: rest =>
    if c = '$' || c = backquote || c = backslash || (c = '"' && quoted) then
      (backquoted? quoted rest).map (fun (text, rest) => (c :: text, rest))
    else (backquoted? quoted rest).map (fun (text, rest) => (backslash :: c :: text, rest))
  | c :: rest =>
    if c = backquote then some ([], rest)
    else (backquoted? quoted rest).map (fun (text, rest) => (c :: text, rest))

/-- Reads the command in a text up to a back quote. -/
def readBackquoted (nested : Nested) (quoted : Bool) : Reader Command := fun cs =>
  match backquoted? quoted cs with
  | none => wrong "EOF in backquote substitution" []
  | some (text, rest) => do
    let (command, left) ← nested.commands text
    match left with
    | [] => return (command, rest)
    | left => unexpected left none

/-- The name of a parameter, and the rest. -/
def paramName? (cs : List Char) : Option (List Char × List Char) :=
  match cs with
  | [] => none
  | c :: rest =>
    if startsName c then some (cs.takeWhile inName, cs.dropWhile inName)
    else if isDigit c then some (cs.takeWhile isDigit, cs.dropWhile isDigit)
    else if isSpecialName c then some ([c], rest)
    else none

/-- The characters of a text as quoted parts; no characters are an empty text in quotes. -/
def quotedParts (text : List Char) : Word :=
  if text.isEmpty then [.empty] else text.map (.char · true)

/-- Where the parts of a word stand. -/
inductive Place where
  /-- Between blanks. -/
  | bare
  /-- Between double quotes. -/
  | quoted
  /-- Between the braces of a parameter, perhaps inside double quotes. -/
  | braces (quoted : Bool)
  /-- Between the brackets of an expression, so many brackets deep. -/
  | expr (depth : Nat)
  /-- On the lines of a text that stands in the script. -/
  | document
  deriving DecidableEq, Repr

/-- Whether parts at a place are quoted. -/
def Place.isQuoted : Place → Bool
  | .bare => false
  | .quoted => true
  | .braces inQuotes => inQuotes
  | .expr _ | .document => true

/-- What becomes of a place at a character that nothing quotes: the word ends there, or goes on at
another place. -/
def Place.next? (place : Place) (c : Char) (rest : List Char) : Option Place :=
  match place with
  | .bare => if endsWord c then none else some .bare
  | .quoted => if c = '"' then none else some .quoted
  | .braces inQuotes => if c = '\x7d' then none else some (.braces inQuotes)
  | .expr depth =>
    if c = '(' then some (.expr (depth + 1))
    else if c = ')' then
      match depth with
      | 0 => if rest.head? = some ')' then none else some (.expr 0)
      | depth + 1 => some (.expr depth)
    else some (.expr depth)
  | .document => some .document

/-- Whether parts at a place can end with the text. -/
def Place.endsWithText (place : Place) : Bool := place = .bare || place = .document

/-- The message for a place that the text does not leave. -/
def Place.unclosed : Place → String
  | .bare | .document => "end of file unexpected"
  | .quoted => "Unterminated quoted string"
  | .braces _ => "Missing '\x7d'"
  | .expr _ => "Missing '))'"

/-- Whether a backslash at a place quotes a character. -/
def Place.escapes (place : Place) (c : Char) : Bool :=
  if place.isQuoted then
    c = '$' || c = backquote || c = backslash || (c = '"' && place ≠ .document) ||
      (c = '\x7d' && place ≠ .quoted && place ≠ .document)
  else true

/-- How the value of a parameter is taken, with the word for it. -/
def paramOp? (name : String) (cs : List Char) : Option ((Word → Param) × List Char) :=
  match cs with
  | ':' :: '-' :: rest => some (.orElse name true, rest)
  | ':' :: '=' :: rest => some (.assign name true, rest)
  | ':' :: '+' :: rest => some (.instead name true, rest)
  | ':' :: '?' :: rest => some (.demand name true, rest)
  | '-' :: rest => some (.orElse name false, rest)
  | '=' :: rest => some (.assign name false, rest)
  | '+' :: rest => some (.instead name false, rest)
  | '?' :: rest => some (.demand name false, rest)
  | '#' :: '#' :: rest => some (.trim name true true, rest)
  | '#' :: rest => some (.trim name true false, rest)
  | '%' :: '%' :: rest => some (.trim name false true, rest)
  | '%' :: rest => some (.trim name false false, rest)
  | _ => none

/-- Whether something is cut off a parameter; the pattern for that is read as if no quotes stood
around it. -/
def trims : Param → Bool
  | .trim _ _ _ _ => true
  | _ => false

/-- Reads the parts of a word at a place; the first `skip` parts after a nested text were read
before.  `fuel` is at least the length of the text. -/
def readParts (nested : Nested) : (fuel : Nat) → Place → Reader Word
  | 0, _, cs => wrong "Word too long" cs
  | _ + 1, place, [] => if place.endsWithText then .ok ([], []) else wrong place.unclosed []
  | fuel + 1, place, c :: rest =>
    if c = backslash then
      match rest with
      | '\n' :: rest => readParts nested fuel place rest
      | d :: rest =>
        if place.escapes d then do
          let (parts, left) ← readParts nested fuel place rest
          return (.char d true :: parts, left)
        else do
          let (parts, left) ← readParts nested fuel place (d :: rest)
          return (.char backslash true :: parts, left)
      | [] =>
        if place.endsWithText then .ok ([.char backslash true], []) else wrong place.unclosed []
    else if c = '\'' && !place.isQuoted then
      let text := rest.takeWhile (· != '\'')
      match rest.dropWhile (· != '\'') with
      | [] => wrong "Unterminated quoted string" []
      | _ :: rest => do
        let (parts, left) ← readParts nested fuel place rest
        return (quotedParts text ++ parts, left)
    else if c = '"' && place ≠ .quoted && place ≠ .document then do
      let (inner, rest) ← readParts nested fuel .quoted rest
      let (parts, left) ← readParts nested fuel place rest
      return ((if inner.isEmpty then [.empty] else inner) ++ parts, left)
    else if c = backquote then do
      let (command, rest) ← readBackquoted nested place.isQuoted rest
      let (parts, left) ← readParts nested fuel place rest
      return (.output command place.isQuoted :: parts, left)
    else if c = '$' then do
      let (part, rest) ← readDollar nested fuel place rest
      let (parts, left) ← readParts nested fuel place rest
      return (part :: parts, left)
    else
      match place.next? c rest with
      | none => .ok ([], if place = .bare then c :: rest else rest)
      | some next => do
        let (parts, left) ← readParts nested fuel next rest
        return (.char c place.isQuoted :: parts, left)
where
  /-- Reads what stands after a dollar sign. -/
  readDollar (nested : Nested) : (fuel : Nat) → Place → Reader Part
    | 0, _, cs => wrong "Word too long" cs
    | fuel + 1, place, cs =>
      let quoted := place.isQuoted
      match cs with
      | '(' :: '(' :: rest => do
        let (expr, rest) ← readParts nested fuel (.expr 0) rest
        match rest with
        | ')' :: rest => return (.sum expr quoted, rest)
        | rest => wrong "Missing '))'" rest
      | '(' :: rest => do
        let (command, rest) ← readClosed nested rest
        return (.output command quoted, rest)
      | '\x7b' :: '#' :: rest =>
        match paramName? rest with
        | some (name, '\x7d' :: rest) =>
          return (.param (.length (String.ofList name)) quoted, rest)
        | _ =>
          match rest with
          | '\x7d' :: rest => return (.param (.value "#") quoted, rest)
          | rest => readUnknown nested fuel quoted rest
      | '\x7b' :: rest =>
        match paramName? rest with
        | none => readUnknown nested fuel quoted rest
        | some (name, '\x7d' :: rest) =>
          return (.param (.value (String.ofList name)) quoted, rest)
        | some (name, rest) =>
          match paramOp? (String.ofList name) rest with
          | none =>
            readUnknown nested fuel quoted (if rest.head? = some ':' then rest.drop 2 else rest.drop 1)
          | some (op, rest) => do
            let inside := quoted && !trims (op [])
            let (word, rest) ← readParts nested fuel (.braces inside) rest
            return (.param (op word) quoted, rest)
      | cs =>
        match paramName? cs with
        | none => return (.char '$' true, cs)
        | some (name, rest) =>
          if name.all isDigit then
            return (.param (.value (String.ofList (name.take 1))) quoted, name.drop 1 ++ rest)
          else return (.param (.value (String.ofList name)) quoted, rest)
  /-- Reads what cannot be done with a parameter, up to the closing brace. -/
  readUnknown (nested : Nested) : (fuel : Nat) → (quoted : Bool) → Reader Part
    | 0, _, cs => wrong "Word too long" cs
    | fuel + 1, quoted, cs => do
      let (_, rest) ← readParts nested fuel (.braces quoted) cs
      return (.param .unknown quoted, rest)

/-- Puts the home directory in place of a tilde that stands alone or before a slash. -/
def openTilde (word : Word) : Word :=
  let home : Part := .param (.orElse "HOME" false [.char '~' true]) true
  match word with
  | [.char '~' false] => [home]
  | .char '~' false :: .char '/' q :: rest => home :: .char '/' q :: rest
  | word => word

/-- Reads a word. -/
def readWord (nested : Nested) : Reader Word := fun cs => do
  let (word, rest) ← readParts nested (2 * cs.length + 2) .bare cs
  return (openTilde word, rest)

/-! ## Redirections -/

/-- The kind of a redirection, the descriptor it is about if none is given, and the rest. -/
def redirectKind? (cs : List Char) : Option (RedirectKind × Nat × List Char) :=
  match cs with
  | '>' :: '>' :: rest => some (.append, 1, rest)
  | '>' :: '&' :: rest => some (.copy, 1, rest)
  | '>' :: '|' :: rest => some (.output, 1, rest)
  | '>' :: rest => some (.output, 1, rest)
  | '<' :: '&' :: rest => some (.copy, 0, rest)
  | '<' :: '<' :: rest => some (.document, 0, rest)
  | '<' :: rest => some (.input, 0, rest)
  | _ => none

/-- The operator of a redirection, which a digit may stand before. -/
def redirectOperator? (cs : List Char) : Option (RedirectKind × Nat × List Char) :=
  match cs with
  | [] => none
  | c :: rest =>
    if isDigit c then (redirectKind? rest).map (fun (kind, _, rest) =>
      (kind, c.toNat - '0'.toNat, rest))
    else redirectKind? cs

/-- A word without its quotes, and whether it has any. -/
def unquote : Word → List Char × Bool
  | [] => ([], false)
  | .char c quoted :: rest =>
    let (cs, more) := unquote rest
    (c :: cs, quoted || more)
  | _ :: rest => ((unquote rest).1, true)

/-- The lines of a text up to the one that is a given line, and the text after that one; `tabs` says
that tabs in front of lines are left out.  `fuel` is more than the length of the text. -/
def linesUntil (tabs : Bool) (last : List Char) : (fuel : Nat) → List Char → List Char × List Char
  | 0, cs => ([], cs)
  | _ + 1, [] => ([], [])
  | fuel + 1, cs =>
    let rest := cs.dropWhile (· != '\n')
    let line := cs.takeWhile (· != '\n')
    let line := if tabs then line.dropWhile (· == '\t') else line
    if line = last then ([], rest.drop 1)
    else
      let (more, after) := linesUntil tabs last fuel (rest.drop 1)
      (line ++ rest.take 1 ++ more, after)

/-- Reads a text that stands in the script after the line, up to a line that is the given word; what
is left is without it. -/
def readDocument (nested : Nested) : Reader Word := fun cs => do
  let tabs := cs.head? = some '-'
  let (word, left) ← readWord nested (skipBlanks (if tabs then cs.drop 1 else cs))
  if word.isEmpty then unexpected left none
  let (last, quoted) := unquote word
  let line := left.takeWhile (· != '\n')
  let (text, after) := linesUntil tabs last (left.length + 1) ((left.drop line.length).drop 1)
  let left := line ++ (left.drop line.length).take 1 ++ after
  if quoted then return (quotedParts text, left)
  else
    let (parts, _) ← readParts nested (2 * text.length + 2) .document text
    return (if parts.isEmpty then [.empty] else parts, left)

/-- Reads a redirection if there is one. -/
def readRedirect? (nested : Nested) (cs : List Char) :
    Except Fault (Option (Redirect × List Char)) :=
  match redirectOperator? cs with
  | none => .ok none
  | some (.document, descriptor, rest) => do
    let (text, left) ← readDocument nested rest
    return some (.mk descriptor .document text, left)
  | some (kind, descriptor, rest) => do
    let (target, left) ← readWord nested (skipBlanks rest)
    if target.isEmpty then unexpected left none
    else return some (.mk descriptor kind target, left)

/-- Reads redirections. -/
def readRedirects (nested : Nested) : (fuel : Nat) → Reader (List Redirect)
  | 0, cs => .ok ([], cs)
  | fuel + 1, cs => do
    match ← readRedirect? nested (skipBlanks cs) with
    | none => return ([], cs)
    | some (redirect, rest) =>
      let (more, rest) ← readRedirects nested fuel rest
      return (redirect :: more, rest)

/-! ## Simple commands -/

/-- The assignment that a word is: a name, an equals sign and a value. -/
def assignment? (word : Word) : Option (String × Word) :=
  let isNamePart : Part → Bool
    | .char c false => inName c
    | _ => false
  match plainText? (word.takeWhile isNamePart), word.dropWhile isNamePart with
  | some (c :: name), .char '=' false :: value =>
    if startsName c then some (String.ofList (c :: name), openTilde value) else none
  | _, _ => none

/-- The parts of a simple command, as far as they have been read. -/
structure Simple where
  /-- The assignments, the last one first. -/
  assigns : List (String × Word)
  /-- The words, the last one first. -/
  words : List Word
  /-- The redirections, the last one first. -/
  redirects : List Redirect

/-- The command that the parts make. -/
def Simple.command (s : Simple) (left : Nat) : Command :=
  .simple left s.assigns.reverse s.words.reverse s.redirects.reverse

/-- Takes a word in: an assignment, as long as no other word came before. -/
def Simple.add (s : Simple) (word : Word) : Simple :=
  match s.words, assignment? word with
  | [], some assign => { s with assigns := assign :: s.assigns }
  | _, _ => { s with words := word :: s.words }

/-- Whether nothing has been read. -/
def Simple.isEmpty (s : Simple) : Bool :=
  s.assigns.isEmpty && s.words.isEmpty && s.redirects.isEmpty

/-- The name of a function that is about to be defined. -/
def functionName? (s : Simple) (rest : List Char) : Option (String × List Char) :=
  match s.words, s.assigns, s.redirects, rest with
  | [word], [], [], '(' :: rest =>
    match plainText? word, skipBlanks rest with
    | some name, ')' :: rest =>
      if name.all inName && (name.head?.any startsName) then some (String.ofList name, rest)
      else none
    | _, _ => none
  | _, _, _, _ => none

/-- Reads a simple command or the name of a function. -/
def readSimple (nested : Nested) : (fuel : Nat) → Simple → Reader Simple
  | 0, s, cs => .ok (s, cs)
  | fuel + 1, s, cs => do
    let cs := skipBlanks cs
    match ← readRedirect? nested cs with
    | some (redirect, rest) =>
      readSimple nested fuel { s with redirects := redirect :: s.redirects } rest
    | none =>
      match cs with
      | [] => return (s, cs)
      | c :: _ =>
        if endsWord c then return (s, cs)
        else
          let (word, rest) ← readWord nested cs
          readSimple nested fuel (s.add word) rest

/-! ## Compound commands -/

/-- Reads commands of which there has to be at least one, unless the text ends. -/
def readBody (nested : Nested) : Reader Command := fun cs => do
  let (command, rest) ← nested.commands cs
  match command, rest with
  | .nothing, _ :: _ => unexpected rest none
  | command, rest => return (command, rest)

/-- Reads a reserved word. -/
def readReserved (word : String) : Reader Unit := fun cs =>
  let cs := skipLines (cs.length + 1) cs
  match reservedWord? cs with
  | some (w, rest) => if w = word then .ok ((), rest) else unexpected cs (some word)
  | none => unexpected cs (some word)

/-- Reads the rest of a choice, after `if` or `elif`. -/
def readCond (nested : Nested) : (fuel : Nat) → Reader (List Redirect → Command)
  | 0, cs => unexpected cs none
  | fuel + 1, cs => do
    let (test, rest) ← readBody nested cs
    let (_, rest) ← readReserved "then" rest
    let (yes, rest) ← readBody nested rest
    match reservedWord? rest with
    | some ("fi", rest) => return (.cond test yes .nothing, rest)
    | some ("else", rest) =>
      let (no, rest) ← readBody nested rest
      let (_, rest) ← readReserved "fi" rest
      return (.cond test yes no, rest)
    | some ("elif", rest) =>
      let (no, rest) ← readCond nested fuel rest
      return (.cond test yes (no []), rest)
    | _ => unexpected rest (some "fi")

/-- Reads the body of a loop. -/
def readDo (nested : Nested) : Reader Command := fun cs => do
  let (_, rest) ← readReserved "do" cs
  let (body, rest) ← readBody nested rest
  let (_, rest) ← readReserved "done" rest
  return (body, rest)

/-- Reads words up to the end of a line. -/
def readWords (nested : Nested) : (fuel : Nat) → Reader (List Word)
  | 0, cs => .ok ([], cs)
  | fuel + 1, cs => do
    match skipBlanks cs with
    | [] => return ([], [])
    | c :: rest =>
      if endsWord c then return ([], c :: rest)
      else
        let (word, rest) ← readWord nested (c :: rest)
        let (more, rest) ← readWords nested fuel rest
        return (word :: more, rest)

/-- Skips a semicolon. -/
def skipSemicolon (cs : List Char) : List Char :=
  match skipBlanks cs with
  | ';' :: ';' :: rest => ';' :: ';' :: rest
  | ';' :: rest => rest
  | cs => cs

/-- Reads the rest of a loop over words. -/
def readFor (nested : Nested) : Reader (List Redirect → Command) := fun cs => do
  let (name, rest) := plainWord (skipBlanks cs)
  if !(name.all inName && (name.head?.any startsName)) then wrong "Bad for loop variable" rest
  let rest := skipLines rest.length rest
  match plainWord rest with
  | (['i', 'n'], rest) =>
    let (words, rest) ← readWords nested rest.length rest
    match rest with
    | ';' :: _ | '\n' :: _ =>
      let (body, rest) ← readDo nested (skipSemicolon rest)
      return (.each (String.ofList name) (some words) body, rest)
    | rest => unexpected rest none
  | _ =>
    let (body, rest) ← readDo nested (skipSemicolon rest)
    return (.each (String.ofList name) none body, rest)

/-- Reads the patterns of a branch, up to the bracket. -/
def readPatterns (nested : Nested) : (fuel : Nat) → Reader (List Word)
  | 0, cs => unexpected cs none
  | fuel + 1, cs => do
    let (pattern, rest) ← readWord nested (skipBlanks cs)
    if pattern.isEmpty then unexpected rest none
    match skipBlanks rest with
    | ')' :: rest => return ([pattern], rest)
    | '|' :: rest =>
      let (more, rest) ← readPatterns nested fuel rest
      return (pattern :: more, rest)
    | rest => unexpected rest (some ")")

/-- Skips an opening bracket. -/
def skipBracket (cs : List Char) : List Char :=
  match cs with
  | '(' :: rest => rest
  | cs => cs

/-- Reads branches up to the word that ends them. -/
def readBranches (nested : Nested) : (fuel : Nat) → Reader (List (List Word × Command))
  | 0, cs => unexpected cs none
  | fuel + 1, cs => do
    let cs := skipLines cs.length cs
    match reservedWord? cs with
    | some ("esac", rest) => return ([], rest)
    | _ =>
      let (patterns, rest) ← readPatterns nested cs.length (skipBracket cs)
      let (body, rest) ← nested.commands rest
      match rest with
      | ';' :: ';' :: rest =>
        let (more, rest) ← readBranches nested fuel rest
        return ((patterns, body) :: more, rest)
      | rest =>
        let (_, rest) ← readReserved "esac" rest
        return ([(patterns, body)], rest)

/-- Reads the rest of a choice by patterns. -/
def readCase (nested : Nested) : Reader (List Redirect → Command) := fun cs => do
  let (word, rest) ← readWord nested (skipBlanks cs)
  if word.isEmpty then unexpected rest none
  let rest := skipLines rest.length rest
  match plainWord rest with
  | (['i', 'n'], rest) =>
    let (branches, rest) ← readBranches nested (rest.length + 1) rest
    return (.choose word branches, rest)
  | _ => unexpected rest (some "in")

/-- Reads a compound command if there is one. -/
def readCompound? (nested : Nested) (cs : List Char) :
    Except Fault (Option ((List Redirect → Command) × List Char)) :=
  match cs with
  | '(' :: rest => do
    let (body, rest) ← readBody nested rest
    match rest with
    | ')' :: rest => return some (.group true body, rest)
    | rest => unexpected rest (some ")")
  | cs =>
    match reservedWord? cs with
    | some ("\x7b", rest) => do
      let (body, rest) ← readBody nested rest
      let (_, rest) ← readReserved "\x7d" rest
      return some (.group false body, rest)
    | some ("if", rest) => some <$> readCond nested (rest.length + 1) rest
    | some ("while", rest) => do
      let (test, rest) ← readBody nested rest
      let (body, rest) ← readDo nested rest
      return some (.loop false test body, rest)
    | some ("until", rest) => do
      let (test, rest) ← readBody nested rest
      let (body, rest) ← readDo nested rest
      return some (.loop true test body, rest)
    | some ("for", rest) => some <$> readFor nested rest
    | some ("case", rest) => some <$> readCase nested rest
    | some (_, _) => unexpected cs none
    | none => .ok none

/-- Reads a command that is not a pipeline. -/
def readCommand (nested : Nested) : (fuel : Nat) → Reader Command
  | 0, cs => unexpected cs none
  | fuel + 1, cs => do
    let cs := skipBlanks cs
    match ← readCompound? nested cs with
    | some (make, rest) =>
      let (redirects, rest) ← readRedirects nested rest.length rest
      return (make redirects, rest)
    | none =>
      let (simple, rest) ← readSimple nested (cs.length + 1) ⟨[], [], []⟩ cs
      match functionName? simple rest with
      | some (name, rest) =>
        let (body, rest) ← readCommand nested fuel (skipLines rest.length rest)
        return (.define name body, rest)
      | none =>
        match simple.isEmpty, rest with
        | false, '(' :: inside =>
          if simple.words.length = 1 && simple.assigns.isEmpty && simple.redirects.isEmpty then
            match skipBlanks inside with
            | ')' :: left => wrong "Bad function name" left
            | inside => unexpected inside (some ")")
          else unexpected rest none
        | true, rest => unexpected rest none
        | false, rest => return (simple.command cs.length, rest)

/-- Reads the commands of a pipeline after the first one. -/
def readPipes (nested : Nested) : (fuel : Nat) → Command → Reader Command
  | 0, first, cs => .ok (first, cs)
  | fuel + 1, first, cs => do
    match skipBlanks cs with
    | '|' :: '|' :: rest => return (first, '|' :: '|' :: rest)
    | '|' :: rest =>
      let rest := skipLines rest.length rest
      let (second, rest) ← readCommand nested (rest.length + 1) rest
      let (more, rest) ← readPipes nested fuel second rest
      return (.pipe first more, rest)
    | rest => return (first, rest)

/-- Reads a pipeline. -/
def readPipeline (nested : Nested) : Reader Command := fun cs => do
  let cs := skipBlanks cs
  match reservedWord? cs with
  | some ("!", rest) =>
    let (first, rest) ← readCommand nested (rest.length + 1) rest
    let (all, rest) ← readPipes nested rest.length first rest
    return (.negate all, rest)
  | _ =>
    let (first, rest) ← readCommand nested (cs.length + 1) cs
    readPipes nested rest.length first rest

/-- Reads the pipelines after the first one that hang on its success. -/
def readAndOr (nested : Nested) : (fuel : Nat) → Command → Reader Command
  | 0, first, cs => .ok (first, cs)
  | fuel + 1, first, cs => do
    match skipBlanks cs with
    | '&' :: '&' :: rest =>
      let (second, rest) ← readPipeline nested (skipLines rest.length rest)
      readAndOr nested fuel (.both first second) rest
    | '|' :: '|' :: rest =>
      let (second, rest) ← readPipeline nested (skipLines rest.length rest)
      readAndOr nested fuel (.either first second) rest
    | rest => return (first, rest)

/-- Whether no command can begin here. -/
def endsCommands (cs : List Char) : Bool :=
  match cs with
  | [] => true
  | ')' :: _ => true
  | ';' :: ';' :: _ => true
  | cs =>
    match reservedWord? cs with
    | some (word, _) =>
      ["\x7d", "do", "done", "elif", "else", "esac", "fi", "then"].contains word
    | none => false

/-- Puts a command behind others. -/
def Command.andThen : Command → Command → Command
  | .nothing, second => second
  | first, .nothing => first
  | first, second => .seq first second

/-- Reads commands one after another, over as many lines as there are, or on one line. -/
def readSequence (nested : Nested) (manyLines : Bool) : (fuel : Nat) → Reader Command
  | 0, cs => .ok (.nothing, cs)
  | fuel + 1, cs => do
    let cs := if manyLines then skipLines cs.length cs else skipBlanks cs
    if endsCommands cs || cs.head? = some '\n' then return (.nothing, cs)
    let (first, rest) ← readPipeline nested cs
    let (command, rest) ← readAndOr nested rest.length first rest
    match rest with
    | ';' :: ';' :: rest => return (command, ';' :: ';' :: rest)
    | ';' :: rest =>
      let (more, rest) ← readSequence nested manyLines fuel rest
      return (command.andThen more, rest)
    | '&' :: rest =>
      let (more, rest) ← readSequence nested manyLines fuel rest
      return ((Command.background command).andThen more, rest)
    | '\n' :: rest =>
      if manyLines then
        let (more, rest) ← readSequence nested manyLines fuel rest
        return (command.andThen more, rest)
      else return (command, '\n' :: rest)
    | rest => return (command, rest)

/-- The readers of what lies at most so deep inside. -/
def Nested.at : Nat → Nested
  | 0 => ⟨fun cs => wrong "Nesting too deep" cs⟩
  | depth + 1 => ⟨fun cs => readSequence (Nested.at depth) true (cs.length + 1) cs⟩

/-- Reads the commands of a line. -/
def readLine : Reader Command := fun cs => do
  let (command, rest) ← readSequence (Nested.at (cs.length + 1)) false (cs.length + 1) cs
  match rest with
  | [] => return (command, [])
  | '\n' :: rest => return (command, rest)
  | rest => unexpected rest none

end Runbook.Shell
