import Runbook.Template

/-!
# Quoting for the shell

`quote` writes a text as one word of a shell command.  A text of letters, digits and some harmless
marks stays as it is; any other is put between single quotes, and a single quote inside it is
written by closing the quotes, a quote after a backslash, and opening them again.
-/

namespace Runbook.Shell

/-- Whether the character needs no quotes. -/
def isPlain (c : Char) : Bool :=
  Template.isLetter c || ('0' ≤ c && c ≤ '9') || "-_./=:@%+,".toList.contains c

/-- A character between single quotes. -/
def quoteChar (c : Char) : List Char :=
  if c = '\'' then ['\'', '\\', '\'', '\''] else [c]

/-- A text as one word. -/
def quoteChars (cs : List Char) : List Char :=
  if !cs.isEmpty && cs.all isPlain then cs
  else '\'' :: cs.flatMap quoteChar ++ ['\'']

/-- A text as one word of a command. -/
def quote (s : String) : String := String.ofList (quoteChars s.toList)

end Runbook.Shell
