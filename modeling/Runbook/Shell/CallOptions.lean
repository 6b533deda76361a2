import Runbook.Shell.Call

/-!
# Options of programs

The options among the arguments of a program: letters after a hyphen, several of them together, or
words after two hyphens.  They may stand behind other arguments.

* `OptionSet` is the options that a program has;
* `OptionSet.read` parts options from operands, or tells by an `OptionFault` what is wrong.
-/

namespace Runbook.Shell

/-- The options that a program has. -/
structure OptionSet where
  /-- The letters that take no argument. -/
  flags : String
  /-- The letters that take an argument. -/
  valued : String
  /-- The letters that may have an argument right behind them. -/
  optional : String
  /-- The words that stand for letters. -/
  words : List (String × Char)

/-- Why options cannot be read. -/
inductive OptionFault where
  /-- There is no such letter. -/
  | unknownLetter (letter : Char)
  /-- There is no such word. -/
  | unknownWord (word : String)
  /-- A letter lacks its argument. -/
  | lackingLetter (letter : Char)
  /-- A word lacks its argument. -/
  | lackingWord (word : String)
  /-- A word takes no argument. -/
  | needlessArgument (word : String)
  deriving DecidableEq, Repr

/-- How the fault is told. -/
def OptionFault.message : OptionFault → String
  | .unknownLetter letter => s!"invalid option -- '{letter}'"
  | .unknownWord word => s!"unrecognized option '--{word}'"
  | .lackingLetter letter => s!"option requires an argument -- '{letter}'"
  | .lackingWord word => s!"option '--{word}' requires an argument"
  | .needlessArgument word => s!"option '--{word}' doesn't allow an argument"

/-- The options of a program, each a letter with its argument, and its operands. -/
structure Parted where
  /-- The options. -/
  options : List (Char × String)
  /-- The operands. -/
  operands : List String
  deriving DecidableEq, Repr

namespace Parted

/-- Whether an option is given. -/
def has (p : Parted) (letter : Char) : Bool := p.options.any (fun (c, _) => c == letter)

/-- The arguments of an option, in order. -/
def args (p : Parted) (letter : Char) : List String :=
  (p.options.filter (fun (c, _) => c == letter)).map (·.2)

/-- The last argument of an option. -/
def arg? (p : Parted) (letter : Char) : Option String := (p.args letter).getLast?

/-- Puts options in front. -/
def withOptions (p : Parted) (options : List (Char × String)) : Parted :=
  { p with options := options ++ p.options }

end Parted

namespace OptionSet

/-- The letter that a word stands for, or the beginning of a word. -/
def letterOf? (set : OptionSet) (word : String) : Option Char :=
  match set.words.find? (fun (w, _) => w == word) with
  | some (_, letter) => some letter
  | none =>
    match set.words.filter (fun (w, _) => word.toList.isPrefixOf w.toList) with
    | (_, letter) :: more => if more.all (fun (_, c) => c == letter) then some letter else none
    | [] => none

/-- The options that letters are, given the next argument, and whether that is the argument of the
last letter. -/
def readLetters (set : OptionSet) (next : Option String) : List Char →
    Except OptionFault (List (Char × String) × Bool)
  | [] => .ok ([], false)
  | c :: cs =>
    if set.valued.toList.contains c then
      match cs, next with
      | [], none => .error (.lackingLetter c)
      | [], some next => .ok ([(c, next)], true)
      | cs, _ => .ok ([(c, String.ofList cs)], false)
    else if set.optional.toList.contains c then .ok ([(c, String.ofList cs)], false)
    else if set.flags.toList.contains c then do
      let (more, used) ← readLetters set next cs
      return ((c, "") :: more, used)
    else .error (.unknownLetter c)

/-- The option that a word is, given the next argument, and whether that is its argument. -/
def readWord (set : OptionSet) (next : Option String) (cs : List Char) :
    Except OptionFault ((Char × String) × Bool) :=
  let word := String.ofList (cs.takeWhile (· != '='))
  let given := if cs.contains '=' then some (String.ofList (cs.drop (word.length + 1))) else none
  match set.letterOf? word with
  | none => .error (.unknownWord (String.ofList cs))
  | some letter =>
    if set.valued.toList.contains letter then
      match given, next with
      | some value, _ => .ok ((letter, value), false)
      | none, some value => .ok ((letter, value), true)
      | none, none => .error (.lackingWord word)
    else if given.isSome && !set.optional.toList.contains letter then
      .error (.needlessArgument word)
    else .ok ((letter, given.getD ""), false)

/-- Parts options from operands. -/
def read (set : OptionSet) : List String → Except OptionFault Parted
  | [] => .ok ⟨[], []⟩
  | arg :: rest =>
    match arg.toList with
    | ['-', '-'] => .ok ⟨[], rest⟩
    | '-' :: '-' :: cs => do
      let (option, used) ← set.readWord rest.head? cs
      let p ← if used then skipping rest else read set rest
      return p.withOptions [option]
    | '-' :: c :: cs => do
      let (options, used) ← set.readLetters rest.head? (c :: cs)
      let p ← if used then skipping rest else read set rest
      return p.withOptions options
    | _ => do
      let p ← read set rest
      return { p with operands := arg :: p.operands }
where
  /-- Parts what stands behind one more argument. -/
  skipping : List String → Except OptionFault Parted
    | [] => .ok ⟨[], []⟩
    | _ :: rest => read set rest

end OptionSet

end Runbook.Shell
