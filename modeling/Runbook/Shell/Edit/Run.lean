import Runbook.Shell.Machine
import Runbook.Shell.Edit.Syntax

/-!
# Running scripts of edits

What a script of edits does with a stream of lines.

* `Work` is the state of a script between two steps;
* `Work.step` takes a step, and `run` as many as there are;
* `Outcome` is how a script ends.
-/

namespace Runbook.Shell.Edit

/-- A line that is read. -/
structure InputLine where
  /-- The name of its file. -/
  file : String
  /-- The line. -/
  text : List Char
  /-- Whether it has an end. -/
  isEnded : Bool
  deriving DecidableEq, Repr

/-- Where a range of lines stands. -/
inductive RangeState where
  /-- The line is not inside. -/
  | outside
  /-- The line is inside; the range ends at the line of a number, if that is known. -/
  | inside (stop : Option Nat)
  deriving DecidableEq, Repr

/-- Something to write after the line. -/
inductive Queued where
  /-- A text. -/
  | text (text : List Char)
  /-- A line. -/
  | line (line : InputLine)
  /-- A file. -/
  | file (path : String)
  deriving DecidableEq, Repr

/-- What stays the same while a script runs. -/
structure Setting where
  /-- The steps. -/
  steps : List Step
  /-- Whether lines are written only by steps that say so. -/
  isQuiet : Bool
  /-- The end of lines. -/
  ending : Char
  /-- How wide the pieces of lines with escapes are. -/
  width : Nat

/-- The state of a script. -/
structure Work where
  /-- The files, channels and clock. -/
  machine : Machine
  /-- Where lines are written to. -/
  output : Target
  /-- The files that lines are written to. -/
  files : List (String × Target)
  /-- The targets whose last line has no end yet. -/
  unended : List Target
  /-- The files that are read line by line, each with its lines that are left. -/
  sources : List (String × List InputLine)
  /-- The lines that have not been read. -/
  left : List InputLine
  /-- The number of lines that have been read. -/
  number : Nat
  /-- The line. -/
  line : InputLine
  /-- The text that is kept. -/
  kept : InputLine
  /-- What is written after the line. -/
  queue : List Queued
  /-- Whether something was replaced since a line was read. -/
  replaced : Bool
  /-- Where the ranges of the steps stand. -/
  ranges : List RangeState
  /-- The pattern that was used last. -/
  lastPattern : Option LinePattern
  /-- The number of the next step; none if a line is to be read. -/
  next : Option Nat

/-- How a script ends. -/
inductive Outcome where
  /-- With an exit code. -/
  | done (code : Nat) (work : Work)
  /-- With a fault. -/
  | fault (fault : Fault) (work : Work)

/-- What a step leads to. -/
inductive Transition where
  /-- The script goes on. -/
  | next (work : Work)
  /-- The script ends. -/
  | halt (outcome : Outcome)

/-! ## Bytes -/

/-- Bytes as characters. -/
def ofBytes (bytes : List UInt8) : List Char := bytes.map (fun b => Char.ofNat b.toNat)

/-- Characters as bytes. -/
def toBytes (cs : List Char) : List UInt8 := cs.map (fun c => UInt8.ofNat c.toNat)

/-- The lines of a file. -/
def linesOf (file : String) (ending : Char) (cs : List Char) : List InputLine :=
  let (done, part) := cs.foldl (fun (acc : List InputLine × List Char) c =>
    if c = ending then (⟨file, acc.2.reverse, true⟩ :: acc.1, []) else (acc.1, c :: acc.2)) ([], [])
  (if part.isEmpty then done else ⟨file, part.reverse, false⟩ :: done).reverse

/-- A line with the text of another one behind its own, and an end if that has one. -/
def InputLine.join (ending : Char) (line more : InputLine) : InputLine :=
  { line with text := line.text ++ ending :: more.text, isEnded := more.isEnded }

namespace Work

/-! ## Reading and writing -/

/-- Writes characters, after the end that the last line may lack. -/
def put (ending : Char) (target : Target) (cs : List Char) (w : Work) : Work :=
  let cs := if w.unended.contains target then ending :: cs else cs
  { w with
    machine := w.machine.write target (toBytes cs)
    unended := w.unended.filter (· ≠ target) }

/-- Writes a line. -/
def putLine (ending : Char) (target : Target) (line : InputLine) (w : Work) : Work :=
  if line.isEnded then w.put ending target (line.text ++ [ending])
  else
    let w := w.put ending target line.text
    { w with unended := target :: w.unended }

/-- The target of a file that the script writes to. -/
def fileTarget (path : String) (w : Work) : Target :=
  ((w.files.find? (fun (p, _) => p == path)).map (·.2)).getD .nothing

/-- Writes what was to be written after the line. -/
def putQueue (ending : Char) (w : Work) : Work :=
  w.queue.foldl (fun w queued =>
    match queued with
    | .text text => w.put ending w.output text
    | .line line => w.putLine ending w.output { line with isEnded := true }
    | .file path =>
      match w.machine.files.readBytes path with
      | .ok bytes => if bytes.isEmpty then w else w.put ending w.output (ofBytes bytes)
      | .error _ => w) { w with queue := [] }

/-- Reads the next line, if there is one; it may be taken in behind the line that there is. -/
def fetch? (ending : Char) (appends : Bool) (w : Work) : Option Work :=
  match w.left with
  | [] => none
  | line :: left =>
    let w := w.putQueue ending
    let text := if appends then w.line.text ++ ending :: line.text else line.text
    some { w with left, number := w.number + 1, replaced := false, line := { line with text } }

/-- Ends the work on the line, which is written unless the script is quiet. -/
def endLine (setting : Setting) (w : Work) : Work :=
  let w := if setting.isQuiet then w else w.putLine setting.ending w.output w.line
  { w.putQueue setting.ending with next := none }

/-! ## Selections -/

/-- Whether the line holds what is searched for. -/
def holds (quest : Quest) (w : Work) : Except Fault (Bool × Work) :=
  match quest.pattern.or w.lastPattern with
  | none => .error .noPattern
  | some pattern =>
    .ok (pattern.matchesIn quest.mode w.line.text, { w with lastPattern := some pattern })

/-- Whether the line is at an address. -/
def isAt (address : Address) (w : Work) : Except Fault (Bool × Work) :=
  match address with
  | .line number => .ok (w.number == number, w)
  | .every first step => .ok (first ≤ w.number && (w.number - first) % step == 0, w)
  | .last => .ok (w.left.isEmpty, w)
  | .holding quest => w.holds quest

/-- Says where the range of a step stands. -/
def setRange (index : Nat) (state : RangeState) (w : Work) : Work :=
  { w with ranges := w.ranges.set index state }

/-- The number of the line at which a range ends that begins with the line, if it is known. -/
def stopOf (stop : RangeEnd) (w : Work) : Option Nat :=
  match stop with
  | .at_ (.line number) => some number
  | .at_ _ => none
  | .after count => some (w.number + count)
  | .multiple factor =>
    some (if factor = 0 then w.number else w.number + factor - w.number % factor)

/-- Whether the line begins a range, or is one. -/
def entersRange (index : Nat) (first : Address) (stop : RangeEnd) (w : Work) :
    Except Fault (Bool × Work) := do
  let (begins, w) ← w.isAt first
  let goesOn := match w.stopOf stop with
    | some number => w.number < number
    | none => true
  return (begins,
    w.setRange index (if begins && goesOn then .inside (w.stopOf stop) else .outside))

/-- Whether the line lies in the range of a step. -/
def inRange (index : Nat) (first : Address) (stop : RangeEnd) (w : Work) :
    Except Fault (Bool × Work) :=
  match w.ranges[index]?, stop with
  | some (.inside (some number)), _ =>
    if w.number < number then .ok (true, w)
    else if w.number = number then .ok (true, w.setRange index .outside)
    else (w.setRange index .outside).entersRange index first stop
  | some (.inside none), .at_ address => do
    let (ends, w) ← w.isAt address
    return (true, if ends then w.setRange index .outside else w)
  | _, _ => w.entersRange index first stop

/-- Whether a step is for the line. -/
def isSelected (index : Nat) (selection : Selection) (w : Work) : Except Fault (Bool × Work) := do
  let (isIn, w) ← match selection.first, selection.stop with
    | none, _ => .ok (true, w)
    | some first, none => w.isAt first
    | some first, some stop => w.inRange index first stop
  return (isIn != selection.isNegated, w)

/-! ## Replacements -/

/-- A character written in a way. -/
def inLetters (letters : Letters) (c : Char) : Char :=
  match letters with
  | .asIs => c
  | .upper => c.toUpper
  | .lower => c.toLower

/-- A text written in a way, the first letter perhaps in another. -/
def withLetters (letters : Letters) (first : Option Letters) : List Char → List Char
  | [] => []
  | c :: rest => inLetters (first.getD letters) c :: rest.map (inLetters letters)

/-- What is put in place of a match. -/
def filled (filling : List Filling) (text : List Char) (found : Found) : List Char :=
  let group (number : Nat) : List Char :=
    if number = 0 then (text.take found.last.index).drop found.start
    else found.last.remembered text number
  (filling.foldl (fun (acc : List Char × Letters × Option Letters) part =>
    let (out, letters, first) := acc
    let add (cs : List Char) : List Char × Letters × Option Letters :=
      (out ++ withLetters letters first cs, letters, if cs.isEmpty then first else none)
    match part with
    | .char c => add [c]
    | .group number => add (group number)
    | .letters letters => (out, letters, none)
    | .nextLetter next => (out, letters, some next)) ([], .asIs, none)).1

/-- Replaces matches from a place on, from the `nth` one on; `after` is where the last match ended,
where no empty match counts.  `fuel` is more than the length of the text. -/
def replaceFrom (replacement : Replacement) (pattern : LinePattern) (text : List Char) :
    (fuel : Nat) → (nth start : Nat) → (after : Option Nat) → List Char × Bool
  | 0, _, start, _ => (text.drop start, false)
  | fuel + 1, nth, start, after =>
    match pattern.search replacement.quest.mode text start with
    | none => (text.drop start, false)
    | some found =>
      let stop := found.last.index
      let between := (text.take found.start).drop start
      let isEmpty := found.start = stop
      let next := if isEmpty then stop + 1 else stop
      let skipped := (text.take next).drop stop
      if isEmpty && after = some stop then
        let (more, changed) := replaceFrom replacement pattern text fuel nth next none
        (between ++ skipped ++ more, changed)
      else if 1 < nth then
        let same := (text.take next).drop found.start
        let (more, changed) := replaceFrom replacement pattern text fuel (nth - 1) next (some stop)
        (between ++ same ++ more, changed)
      else
        let put := filled replacement.filling text found
        if replacement.onwards then
          let (more, _) := replaceFrom replacement pattern text fuel nth next (some stop)
          (between ++ put ++ skipped ++ more, true)
        else (between ++ put ++ text.drop stop, true)

/-- Replaces matches in the line. -/
def replace (ending : Char) (replacement : Replacement) (w : Work) : Except Fault Work :=
  match replacement.quest.pattern.or w.lastPattern with
  | none => .error .noPattern
  | some pattern =>
    let w := { w with lastPattern := some pattern }
    let (text, changed) := replaceFrom replacement pattern w.line.text
      (2 * w.line.text.length + 4) replacement.nth 0 none
    if !changed then .ok w
    else
      let w := { w with line := { w.line with text }, replaced := true }
      let w := if replacement.prints then w.putLine ending w.output w.line else w
      .ok (replacement.file.elim w (fun path => w.putLine ending (w.fileTarget path) w.line))

/-! ## Lines with escapes -/

/-- A character with escapes. -/
def escaped (c : Char) : List Char :=
  match c with
  | '\\' => ['\\', '\\']
  | '\x07' => ['\\', 'a']
  | '\x08' => ['\\', 'b']
  | '\x0c' => ['\\', 'f']
  | '\n' => ['\\', 'n']
  | '\r' => ['\\', 'r']
  | '\t' => ['\\', 't']
  | '\x0b' => ['\\', 'v']
  | c =>
    if ' ' ≤ c && c ≤ '~' then [c]
    else
      let ds := Nat.toDigits 8 c.toNat
      '\\' :: List.replicate (3 - ds.length) '0' ++ ds

/-- A text with escapes, in pieces of a width; none if they cannot be as narrow. -/
def listed (width : Nat) (text : List Char) : List Char :=
  let (out, _) := text.foldl (fun (acc : List Char × Nat) c =>
    let piece := escaped c
    if 1 < width && width - 1 < acc.2 + piece.length then
      (acc.1 ++ ['\\', '\n'] ++ piece, piece.length)
    else (acc.1 ++ piece, acc.2 + piece.length)) ([], 0)
  out ++ ['$', '\n']

/-! ## Steps -/

/-- The first part of a text with several lines. -/
def firstPart (ending : Char) (text : List Char) : List Char := text.takeWhile (· != ending)

/-- Writes the first part of the line; a line of one part is written as it is. -/
def putFirst (ending : Char) (target : Target) (w : Work) : Work :=
  if w.line.text.contains ending then
    w.put ending target (firstPart ending w.line.text ++ [ending])
  else w.putLine ending target w.line

/-- The number of the step behind a label, or behind the last step. -/
def placeOf (steps : List Step) (label : Option String) : Nat :=
  match label with
  | none => steps.length
  | some name =>
    (steps.findIdx? (fun step => step.action == .label name)).getD steps.length

/-- Reads the next line of a file that is read line by line. -/
def nextOf (ending : Char) (path : String) (w : Work) : Option InputLine × Work :=
  let lines := match w.sources.find? (fun (p, _) => p == path) with
    | some (_, lines) => lines
    | none =>
      match w.machine.files.readBytes path with
      | .ok bytes => linesOf path ending (ofBytes bytes)
      | .error _ => []
  let others := w.sources.filter (fun (p, _) => p != path)
  (lines.head?, { w with sources := (path, lines.drop 1) :: others })

/-- Does what a step says with the line; the step has a number. -/
def perform (setting : Setting) (index : Nat) (action : Action) (w : Work) : Transition :=
  let ending := setting.ending
  let goOn (w : Work) : Transition := .next { w with next := some (index + 1) }
  let goTo (index : Nat) (w : Work) : Transition := .next { w with next := some index }
  let write (cs : List Char) : Work := w.put ending w.output cs
  let withText (text : List Char) : Work := { w with line := { w.line with text } }
  match action with
  | .block _ | .nothing | .label _ => goOn w
  | .jump label => goTo (placeOf setting.steps label) w
  | .jumpIf wanted label =>
    if w.replaced = wanted then
      goTo (placeOf setting.steps label) { w with replaced := false }
    else goOn { w with replaced := false }
  | .append text => goOn (if text.isEmpty then w else { w with queue := w.queue ++ [.text text] })
  | .insert text => goOn (if text.isEmpty then w else write text)
  | .change text =>
    let isLast := match w.ranges[index]? with
      | some (.inside _) => false
      | _ => true
    .next { (if isLast && !text.isEmpty then write text else w) with next := none }
  | .delete => .next { w with next := none }
  | .deleteFirst =>
    if w.line.text.contains ending then
      let part := firstPart ending w.line.text
      goTo 0 ((withText (w.line.text.drop (part.length + 1))).putQueue ending)
    else .next { w with next := none }
  | .get appends =>
    goOn { w with line :=
      if appends then w.line.join ending w.kept
      else { w.kept with file := w.line.file } }
  | .hold appends =>
    goOn { w with kept := if appends then w.kept.join ending w.line else w.line }
  | .exchange => goOn { w with line := { w.kept with file := w.line.file }, kept := w.line }
  | .clear => goOn (withText [])
  | .print onlyFirst =>
    goOn (if onlyFirst then w.putFirst ending w.output else w.putLine ending w.output w.line)
  | .next appends =>
    if w.left.isEmpty then goTo setting.steps.length w
    else
      let w := if appends || setting.isQuiet then w else w.putLine ending w.output w.line
      (w.fetch? ending appends).elim (goTo setting.steps.length w) goOn
  | .quit writes code =>
    .halt (.done code (if writes then w.endLine setting else w))
  | .read path onlyLine =>
    if onlyLine then
      let (line, w) := w.nextOf ending path
      goOn { w with queue := w.queue ++ (line.map Queued.line).toList }
    else goOn { w with queue := w.queue ++ [.file path] }
  | .write path onlyFirst =>
    let target := w.fileTarget path
    goOn (if onlyFirst then w.putFirst ending target else w.putLine ending target w.line)
  | .list width => goOn (write (listed (width.getD setting.width) w.line.text))
  | .number => goOn (write ((toString w.number).toList ++ ['\n']))
  | .fileName => goOn (write (w.line.file.toList ++ ['\n']))
  | .replace replacement =>
    match w.replace ending replacement with
    | .ok w => goOn w
    | .error fault => .halt (.fault fault w)
  | .translate pairs =>
    goOn (withText (w.line.text.map (fun c =>
      ((pairs.find? (fun (source, _) => source == c)).map (·.2)).getD c)))

/-- Takes a step: with the line, or to the next one. -/
def step (setting : Setting) (w : Work) : Transition :=
  match w.next with
  | none =>
    match w.fetch? setting.ending false with
    | some w => .next { w with next := some 0 }
    | none => .halt (.done 0 (w.putQueue setting.ending))
  | some index =>
    match setting.steps[index]? with
    | none => .next (w.endLine setting)
    | some step =>
      match w.isSelected index step.selection with
      | .error fault => .halt (.fault fault w)
      | .ok (true, w) => w.perform setting index step.action
      | .ok (false, w) =>
        let next := match step.action with
          | .block stop => stop
          | _ => index + 1
        .next { w with next := some next }

/-- The state before the first line. -/
def start (setting : Setting) (machine : Machine) (output : Target) (files : List (String × Target))
    (lines : List InputLine) : Work where
  machine := machine
  output := output
  files := files
  unended := []
  sources := []
  left := lines
  number := 0
  line := ⟨"-", [], true⟩
  kept := ⟨"-", [], true⟩
  queue := []
  replaced := false
  ranges := setting.steps.map (fun step =>
    match step.selection.first with
    | some (.line 0) => .inside none
    | _ => .outside)
  lastPattern := none
  next := none

end Work

/-- Takes steps until the script ends, at most so many. -/
def run (setting : Setting) : (fuel : Nat) → Work → Option Outcome
  | 0, _ => none
  | fuel + 1, w =>
    match w.step setting with
    | .next w => run setting fuel w
    | .halt outcome => some outcome

end Runbook.Shell.Edit
