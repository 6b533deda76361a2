import Runbook.Shell.LineMatch

/-!
# Edits of streams

The scripts by which a stream of lines is edited.

* `Address` and `Selection` say which lines a step of a script is for;
* `Action` is what a step does with the line that is being edited;
* `Mistake` is a mistake in a script, and `Fault.message` its wording.
-/

namespace Runbook.Shell.Edit

/-- What lines are searched for; without a pattern, the one that was used last. -/
structure Quest where
  /-- The pattern. -/
  pattern : Option LinePattern
  /-- How it is searched for. -/
  mode : SearchMode
  deriving DecidableEq, Repr

/-- A line, or lines of a kind. -/
inductive Address where
  /-- The line of a number. -/
  | line (number : Nat)
  /-- A line, and each one so many lines further on. -/
  | every (first step : Nat)
  /-- The last line. -/
  | last
  /-- A line that holds something. -/
  | holding (quest : Quest)
  deriving DecidableEq, Repr

/-- Where a range of lines ends. -/
inductive RangeEnd where
  /-- At a line. -/
  | at_ (address : Address)
  /-- So many lines after its first line. -/
  | after (count : Nat)
  /-- At a line whose number is a multiple. -/
  | multiple (factor : Nat)
  deriving DecidableEq, Repr

/-- Which lines a step is for. -/
structure Selection where
  /-- The line, or the first line of a range; all lines if there is none. -/
  first : Option Address
  /-- The end of the range. -/
  stop : Option RangeEnd
  /-- Whether the step is for all other lines. -/
  isNegated : Bool
  deriving DecidableEq, Repr

/-- How letters are written. -/
inductive Letters where
  /-- As they are. -/
  | asIs
  /-- As capitals. -/
  | upper
  /-- As small ones. -/
  | lower
  deriving DecidableEq, Repr

/-- A part of what is put in place of a match. -/
inductive Filling where
  /-- A character. -/
  | char (c : Char)
  /-- The text that was remembered under a number; the whole match for zero. -/
  | group (number : Nat)
  /-- Letters are written so from there on. -/
  | letters (letters : Letters)
  /-- The next letter is written so. -/
  | nextLetter (letters : Letters)
  deriving DecidableEq, Repr

/-- A replacement of matches. -/
structure Replacement where
  /-- What is replaced. -/
  quest : Quest
  /-- What is put in its place. -/
  filling : List Filling
  /-- The number of the first match that is replaced. -/
  nth : Nat
  /-- Whether those after it are replaced too. -/
  onwards : Bool
  /-- Whether the line is written if something was replaced. -/
  prints : Bool
  /-- The file that the line is written to if something was replaced. -/
  file : Option String
  deriving DecidableEq, Repr

/-- What a step does. -/
inductive Action where
  /-- Goes on with the next step, or behind the end of the block with that number. -/
  | block (stop : Nat)
  /-- Nothing. -/
  | nothing
  /-- Marks a place. -/
  | label (name : String)
  /-- Goes on at a place, or with the next line. -/
  | jump (label : Option String)
  /-- Does so if something was replaced, or if nothing was. -/
  | jumpIf (replaced : Bool) (label : Option String)
  /-- Writes a text after the line. -/
  | append (text : List Char)
  /-- Writes a text before the line. -/
  | insert (text : List Char)
  /-- Writes a text in place of the lines. -/
  | change (text : List Char)
  /-- Drops the line. -/
  | delete
  /-- Drops the first part of the line, and begins again with the rest. -/
  | deleteFirst
  /-- Takes the text that was kept. -/
  | get (appends : Bool)
  /-- Keeps the line. -/
  | hold (appends : Bool)
  /-- Exchanges the line and the text that was kept. -/
  | exchange
  /-- Empties the line. -/
  | clear
  /-- Writes the line, or the first part of it. -/
  | print (onlyFirst : Bool)
  /-- Goes on with the next line, or takes it in. -/
  | next (appends : Bool)
  /-- Ends the script, perhaps without writing the line. -/
  | quit (writes : Bool) (code : Nat)
  /-- Writes a file after the line, or only the next line of it. -/
  | read (path : String) (onlyLine : Bool)
  /-- Writes the line to a file, or the first part of it. -/
  | write (path : String) (onlyFirst : Bool)
  /-- Writes the line with escapes, in pieces of a width. -/
  | list (width : Option Nat)
  /-- Writes the number of the line. -/
  | number
  /-- Writes the name of the file. -/
  | fileName
  /-- Replaces matches. -/
  | replace (replacement : Replacement)
  /-- Puts characters in place of others. -/
  | translate (pairs : List (Char × Char))
  deriving DecidableEq, Repr

/-- A step of a script. -/
structure Step where
  /-- Which lines it is for. -/
  selection : Selection
  /-- What it does. -/
  action : Action
  deriving DecidableEq, Repr

/-- The files that a script writes to. -/
def writtenFiles (steps : List Step) : List String :=
  steps.filterMap (fun step =>
    match step.action with
    | .write path _ => some path
    | .replace replacement => replacement.file
    | _ => none)

/-! ## Mistakes -/

/-- What is wrong with a script. -/
inductive Fault where
  /-- A selection is turned around twice. -/
  | twoNegations
  /-- There is no address after a comma. -/
  | badComma
  /-- A range begins with what can only end one. -/
  | badFirst
  /-- A block is not closed. -/
  | openBlock
  /-- A block was not opened. -/
  | closedBlock
  /-- Something follows a command. -/
  | junk
  /-- There is no text. -/
  | noText
  /-- The end of a block has an address. -/
  | addressedEnd
  /-- A label has an address. -/
  | addressedLabel
  /-- A comment has an address. -/
  | addressedComment
  /-- There is no command. -/
  | noCommand
  /-- A command takes only one address. -/
  | oneAddress
  /-- A pattern of an address is not closed. -/
  | openAddress
  /-- A replacement is not closed. -/
  | openReplacement
  /-- A translation is not closed. -/
  | openTranslation
  /-- There is no such option of a replacement. -/
  | unknownOption
  /-- An option of a replacement comes twice. -/
  | twice (what : String)
  /-- A replacement is for the match of number zero. -/
  | zeroNumber
  /-- A translation has different numbers of characters. -/
  | lengths
  /-- There is no line of number zero. -/
  | lineZero
  /-- There is no such command. -/
  | unknownCommand (c : Char)
  /-- A label has no name. -/
  | noLabel
  /-- There is no name of a file. -/
  | noFile
  /-- A replacement uses a group that the pattern does not have. -/
  | unknownGroup (number : Nat)
  /-- A pattern cannot be read. -/
  | pattern (fault : PatternFault)
  /-- No pattern was used before. -/
  | noPattern
  deriving DecidableEq, Repr

/-- A name in the quotes of messages. -/
def quoted (name : String) : String := "\x60" ++ name ++ "'"

/-- How the fault is told. -/
def Fault.message : Fault → String
  | .twoNegations => "multiple " ++ quoted "!" ++ "s"
  | .badComma => "unexpected " ++ quoted ","
  | .badFirst => "invalid usage of +N or ~N as first address"
  | .openBlock => "unmatched " ++ quoted "\x7b"
  | .closedBlock => "unexpected " ++ quoted "\x7d"
  | .junk => "extra characters after command"
  | .noText => "expected \\ after " ++ quoted "a" ++ ", " ++ quoted "c" ++ " or " ++ quoted "i"
  | .addressedEnd => quoted "\x7d" ++ " doesn't want any addresses"
  | .addressedLabel => ": doesn't want any addresses"
  | .addressedComment => "comments don't accept any addresses"
  | .noCommand => "missing command"
  | .oneAddress => "command only uses one address"
  | .openAddress => "unterminated address regex"
  | .openReplacement => "unterminated " ++ quoted "s" ++ " command"
  | .openTranslation => "unterminated " ++ quoted "y" ++ " command"
  | .unknownOption => "unknown option to " ++ quoted "s"
  | .twice what => "multiple " ++ what ++ " options to " ++ quoted "s" ++ " command"
  | .zeroNumber => "number option to " ++ quoted "s" ++ " command may not be zero"
  | .lengths => "strings for " ++ quoted "y" ++ " command are different lengths"
  | .lineZero => "invalid usage of line address 0"
  | .unknownCommand c => "unknown command: " ++ quoted (String.singleton c)
  | .noLabel => "\":\" lacks a label"
  | .noFile => "missing filename in r/R/w/W commands"
  | .unknownGroup number =>
    "invalid reference \\" ++ toString number ++ " on " ++ quoted "s" ++ " command's RHS"
  | .pattern fault => fault.message
  | .noPattern => "no previous regular expression"

/-- A mistake in a script. -/
structure Mistake where
  /-- What is wrong. -/
  fault : Fault
  /-- The number of characters after it; none if it is a mistake of the script as a whole. -/
  left : Option Nat
  deriving DecidableEq, Repr

end Runbook.Shell.Edit
