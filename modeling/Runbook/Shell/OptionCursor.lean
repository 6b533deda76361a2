/-!
# Options one by one

A script reads the options among its arguments one at a time, and remembers in between how far it
has come.

* `OptionCursor` is how far it has come;
* `OptionCursor.next` is the next option, if there is one;
* `leadingOptions` has all options in front of other arguments.
-/

namespace Runbook.Shell

/-- How far the options have been read. -/
structure OptionCursor where
  /-- The number of the next argument, counted from one. -/
  word : Nat
  /-- How many characters of the argument before have been read; none if it has been read whole. -/
  read : Option Nat
  deriving DecidableEq, Repr

/-- What stands next among the arguments. -/
inductive OptionRead where
  /-- No option. -/
  | ended
  /-- An option, with its own argument; one that takes none has an empty one. -/
  | found (letter : Char) (arg : List Char)
  /-- An option that there is not. -/
  | unknown (letter : Char)
  /-- An option that lacks its own argument. -/
  | lacking (letter : Char)
  deriving DecidableEq, Repr

namespace OptionCursor

/-- Before the first argument. -/
def start : OptionCursor := ⟨1, none⟩

/-- Before the argument of a number. -/
def at_ (word : Nat) : OptionCursor := ⟨max word 1, none⟩

/-- The cursor, unless it lies beyond the arguments. -/
def within (cursor : OptionCursor) (count : Nat) : OptionCursor :=
  if count + 1 < cursor.word then start else cursor

/-- Whether an option takes an argument, as a list of letters with colons behind them says it; none
if it is not in the list. -/
def takesArg? (letter : Char) : List Char → Option Bool
  | [] => none
  | c :: ':' :: rest => if c = letter then some true else takesArg? letter rest
  | c :: rest => if c = letter then some false else takesArg? letter rest

/-- What has not been read of the argument that the cursor stands in. -/
def unread (cursor : OptionCursor) (args : List String) : List Char :=
  match cursor.word, cursor.read with
  | n + 2, some k => ((args[n]?).getD "").toList.drop k
  | _, _ => []

/-- Reads an option whose letters begin here, in the argument before the cursor. -/
def ofLetters (known : List Char) (args : List String) (word : Nat) (letters : List Char) :
    OptionRead × OptionCursor :=
  let size := ((args[word - 2]?).getD "").length
  match letters with
  | [] => (.ended, ⟨word, none⟩)
  | c :: rest =>
    match takesArg? c known, rest with
    | none, rest => (.unknown c, ⟨word, some (size - rest.length)⟩)
    | some false, rest => (.found c [], ⟨word, some (size - rest.length)⟩)
    | some true, [] =>
      match args[word - 1]? with
      | some arg => (.found c arg.toList, ⟨word + 1, none⟩)
      | none => (.lacking c, ⟨word, none⟩)
    | some true, rest => (.found c rest, ⟨word, none⟩)

/-- The next option, and how far the arguments have then been read. -/
def next (known : List Char) (args : List String) (cursor : OptionCursor) :
    OptionRead × OptionCursor :=
  match cursor.unread args with
  | [] =>
    match (args[cursor.word - 1]?).map String.toList with
    | some ['-', '-'] => (.ended, ⟨cursor.word + 1, none⟩)
    | some ('-' :: c :: cs) => ofLetters known args (cursor.word + 1) (c :: cs)
    | _ => (.ended, ⟨cursor.word, none⟩)
  | letters => ofLetters known args cursor.word letters

/-- All options from a cursor on, and the arguments after them; `fuel` is more than the number of
characters in the arguments. -/
def all (known : List Char) (args : List String) : (fuel : Nat) → OptionCursor →
    List OptionRead × List String
  | 0, cursor => ([], args.drop (cursor.word - 1))
  | fuel + 1, cursor =>
    match cursor.next known args with
    | (.ended, cursor) => ([], args.drop (cursor.word - 1))
    | (option, cursor) =>
      let (more, rest) := all known args fuel cursor
      (option :: more, rest)

end OptionCursor

/-- What is told of an option that cannot be read. -/
def OptionRead.fault? : OptionRead → Option String
  | .unknown c => some s!"Illegal option -{String.singleton c}"
  | .lacking c => some s!"No arg for -{String.singleton c} option"
  | _ => none

/-- The options in front of arguments and the arguments after them, or what is wrong with the first
option that cannot be read. -/
def leadingOptions (known : String) (args : List String) :
    Except String (List OptionRead × List String) :=
  let size := (args.map String.length).foldl (· + ·) 0
  let (options, rest) := OptionCursor.all known.toList args (size + 1) .start
  match options.findSome? OptionRead.fault? with
  | some fault => .error fault
  | none => .ok (options, rest)

end Runbook.Shell
