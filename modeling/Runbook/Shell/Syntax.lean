/-!
# Shell scripts

The structure of a shell script, after it has been read and before anything in it is expanded.

* `Part` is a part of a word: a character, or something that is replaced when the word is used;
* `Command` is a command, simple or made of others.
-/

namespace Runbook.Shell

/-- What a redirection does. -/
inductive RedirectKind where
  /-- Reads from a file. -/
  | input
  /-- Writes to a file from its beginning. -/
  | output
  /-- Writes to a file after its end. -/
  | append
  /-- Uses another descriptor. -/
  | copy
  /-- Reads a text that stands in the script. -/
  | document
  deriving DecidableEq, Repr

mutual

/-- A part of a word. -/
inductive Part where
  /-- A character; a quoted one stands for nothing but itself. -/
  | char (c : Char) (quoted : Bool)
  /-- Quotes with nothing between them. -/
  | empty
  /-- A parameter. -/
  | param (p : Param) (quoted : Bool)
  /-- The output of a command. -/
  | output (command : Command) (quoted : Bool)
  /-- The value of an expression. -/
  | sum (expr : List Part) (quoted : Bool)

/-- What is taken of a parameter. -/
inductive Param where
  /-- Its value. -/
  | value (name : String)
  /-- The number of bytes of its value. -/
  | length (name : String)
  /-- Its value, or else a word; `orEmpty` says whether an empty value counts as none. -/
  | orElse (name : String) (orEmpty : Bool) (word : List Part)
  /-- Its value, or else a word that becomes its value. -/
  | assign (name : String) (orEmpty : Bool) (word : List Part)
  /-- A word if it has a value. -/
  | instead (name : String) (orEmpty : Bool) (word : List Part)
  /-- Its value, which it has to have. -/
  | demand (name : String) (orEmpty : Bool) (word : List Part)
  /-- Its value without what matches a pattern at one end. -/
  | trim (name : String) (atFront longest : Bool) (pattern : List Part)
  /-- Something that cannot be done with a parameter. -/
  | unknown

/-- A redirection of a descriptor. -/
inductive Redirect where
  /-- What is redirected, how, and where to. -/
  | mk (descriptor : Nat) (kind : RedirectKind) (target : List Part)

/-- A command. -/
inductive Command where
  /-- Nothing at all. -/
  | nothing
  /-- Assignments, and a program with its arguments; `left` is the number of characters of the
  script from its beginning on. -/
  | simple (left : Nat) (assigns : List (String × List Part)) (words : List (List Part))
      (redirects : List Redirect)
  /-- The output of the first is the input of the second. -/
  | pipe (first second : Command)
  /-- Succeeds when the other one does not. -/
  | negate (command : Command)
  /-- The second runs if the first succeeds. -/
  | both (first second : Command)
  /-- The second runs if the first does not succeed. -/
  | either (first second : Command)
  /-- One after the other. -/
  | seq (first second : Command)
  /-- Runs beside what follows. -/
  | background (command : Command)
  /-- Commands together, perhaps in a shell of their own. -/
  | group (apart : Bool) (body : Command) (redirects : List Redirect)
  /-- A choice by the success of a command. -/
  | cond (test yes no : Command) (redirects : List Redirect)
  /-- A loop while a command succeeds, or until it does. -/
  | loop (untilTrue : Bool) (test body : Command) (redirects : List Redirect)
  /-- A loop over words; without words, over the arguments. -/
  | each (var : String) (words : Option (List (List Part))) (body : Command)
      (redirects : List Redirect)
  /-- A choice by the patterns that a word matches. -/
  | choose (word : List Part) (branches : List (List (List Part) × Command))
      (redirects : List Redirect)
  /-- The definition of a function. -/
  | define (name : String) (body : Command)

end

/-- A word. -/
abbrev Word := List Part

/-- The text of a word that consists of unquoted characters. -/
def plainText? : Word → Option (List Char)
  | [] => some []
  | .char c false :: rest => (plainText? rest).map (c :: ·)
  | _ => none

end Runbook.Shell
