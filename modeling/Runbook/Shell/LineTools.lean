import Runbook.Number.Decimal
import Runbook.Shell.Call
import Runbook.Shell.Format

/-!
# Programs on lines

The programs that copy, cut, sort and count the characters and lines of texts.

* `cat`, `head`, `tail` and `tee` copy;
* `tr` changes characters;
* `sort`, `uniq`, `rev` and `tac` work on whole lines, `wc` counts them.
-/

namespace Runbook.Shell

namespace Utility

/-! ## Programs that copy -/

/-- Lines with their numbers in front; with `skipsEmpty`, only those that are not empty. -/
def numberLines (skipsEmpty : Bool) : Nat → List (List UInt8) → List (List UInt8)
  | _, [] => []
  | n, line :: rest =>
    if skipsEmpty && line.isEmpty then line :: numberLines skipsEmpty n rest
    else (Utf8.encode (rightAlign 6 n ++ "\t") ++ line) :: numberLines skipsEmpty (n + 1) rest

/-- Copies its operands, perhaps with the numbers of lines. -/
def cat : Utility := fun call m =>
  let (options, operands) := splitOptions call.args
  let (parts, fine, m) := readOperands call (orInput operands) m
  let bytes := parts.flatMap (·.2)
  let numbered := joinLines (numberLines (options.contains 'b') 1 (byteLines bytes))
  let out :=
    if options.contains 'n' || options.contains 'b' then
      if endsInLine bytes then numbered.dropLast else numbered
    else bytes
  (codeOf fine, m.writeTo call.fds 1 out)

/-- Copies lines with their numbers in front. -/
def nl : Utility := fun call m =>
  let (_, operands) := splitOptions call.args
  let (parts, fine, m) := readOperands call (orInput operands) m
  let blank := List.replicate 7 32
  let lines := (numberLines true 1 (byteLines (parts.flatMap (·.2)))).map (fun line =>
    if line.isEmpty then blank else line)
  (codeOf fine, m.writeTo call.fds 1 (joinLines lines))

/-- The count after an option such as `-n`, and the operands. -/
def countOption (args : List String) : Option Char × List Char × List String :=
  match args with
  | [] => (none, "10".toList, [])
  | first :: rest =>
    match first.toList with
    | ['-', c] =>
      if Decimal.isDigit c then (some 'n', [c], rest)
      else match rest with
        | count :: rest => (some c, count.toList, rest)
        | [] => (some c, [], [])
    | '-' :: c :: cs =>
      if Decimal.isDigit c then (some 'n', c :: cs, rest) else (some c, cs, rest)
    | _ => (none, "10".toList, args)

/-- What a program takes of each operand, with the names of the operands if there are several. -/
def takeOfEach (count : Nat) (taken : List UInt8 → List UInt8) :
    (first : Bool) → List (String × List UInt8) → List UInt8
  | _, [] => []
  | first, (path, bytes) :: rest =>
    let title := (if first then "" else "\n") ++ s!"==> {path} <==\n"
    (if count > 1 then Utf8.encode title else []) ++ taken bytes ++
      takeOfEach count taken false rest

/-- Runs a program that takes so much of each operand. -/
def takeCounted (taken : Option Char → List Char → List UInt8 → List UInt8) : Utility :=
  fun call m =>
    let (kind, count, operands) := countOption call.args
    let digits := if count.head?.any ("+-".toList.contains ·) then count.drop 1 else count
    if digits.isEmpty || !digits.all Decimal.isDigit then
      let what := if kind = some 'c' then "bytes" else "lines"
      (1, complain call m s!"invalid number of {what}: '{String.ofList count}'")
    else
      let (parts, fine, m) := readOperands call (orInput operands) m
      (codeOf fine, m.writeTo call.fds 1 (takeOfEach operands.length (taken kind count) true parts))

/-- Copies the beginnings of its operands. -/
def head : Utility := takeCounted (fun kind count bytes =>
  let ls := byteLines bytes
  match kind, count with
  | some 'c', '-' :: ds => bytes.take (bytes.length - Decimal.natOfDigits ds)
  | some 'c', ds => bytes.take (Decimal.natOfDigits ds)
  | _, '-' :: ds => bytes.take (joinLines (ls.take (ls.length - Decimal.natOfDigits ds))).length
  | _, ds => bytes.take (joinLines (ls.take (Decimal.natOfDigits ds))).length)

/-- Copies the ends of its operands. -/
def tail : Utility := takeCounted (fun kind count bytes =>
  let ls := byteLines bytes
  match kind, count with
  | some 'c', '+' :: ds => bytes.drop (Decimal.natOfDigits ds - 1)
  | some 'c', ds =>
    bytes.drop (bytes.length - Decimal.natOfDigits (ds.filter Decimal.isDigit))
  | _, '+' :: ds => bytes.drop (joinLines (ls.take (Decimal.natOfDigits ds - 1))).length
  | _, ds =>
    let n := Decimal.natOfDigits (ds.filter Decimal.isDigit)
    bytes.drop (joinLines (ls.take (ls.length - n))).length)

/-- Copies its input to its output and to files. -/
def tee : Utility := fun call m =>
  let (options, operands) := splitOptions call.args
  let (bytes, m) := m.readAll (Machine.target call.fds 0)
  let m := m.writeTo call.fds 1 bytes
  let (fine, m) := operands.foldl (fun (acc : Bool × Machine) path =>
    match acc.2.openOutput path (!options.contains 'a') with
    | .ok (target, m) => (acc.1, m.write target bytes)
    | .error _ => (false, complain call acc.2 s!"{path}: {PathFault.notFound.reason}")) (true, m)
  (codeOf fine, m)

/-! ## Programs on characters and lines -/

/-- The characters of a named set. -/
def namedCharacters (name : String) : List Char :=
  let range (low high : Char) : List Char :=
    (List.range' low.toNat (high.toNat - low.toNat + 1)).map Char.ofNat
  match name with
  | "upper" => range 'A' 'Z'
  | "lower" => range 'a' 'z'
  | "alpha" => range 'A' 'Z' ++ range 'a' 'z'
  | "digit" => range '0' '9'
  | "alnum" => range '0' '9' ++ range 'A' 'Z' ++ range 'a' 'z'
  | "space" => ['\t', '\n', '\x0b', '\x0c', '\r', ' ']
  | "blank" => ['\t', ' ']
  | "punct" => range '!' '/' ++ range ':' '@' ++ range '[' '\x60' ++ range '\x7b' '~'
  | _ => []

/-- The characters that a set is written with, escapes read and ranges filled; `fuel` is at least
the length of the text. -/
def characterSet : (fuel : Nat) → List Char → List Char
  | 0, _ => []
  | _ + 1, [] => []
  | fuel + 1, '[' :: ':' :: rest =>
    let name := rest.takeWhile (· != ':')
    namedCharacters (String.ofList name) ++ characterSet fuel (rest.drop (name.length + 2))
  | fuel + 1, cs =>
    let (c, rest) := match cs with
      | '\\' :: rest =>
        match escape? false rest with
        | some (b, rest) => (Char.ofNat b.toNat, rest)
        | none => (rest.head?.getD '\\', rest.drop 1)
      | c :: rest => (c, rest)
      | [] => (' ', [])
    match rest with
    | '-' :: last :: more =>
      (List.range' c.toNat (last.toNat + 1 - c.toNat)).map Char.ofNat ++ characterSet fuel more
    | rest => c :: characterSet fuel rest

/-- The bytes that a set is written with. -/
def byteSet (text : String) : List UInt8 :=
  Utf8.encode (String.ofList (characterSet (text.length + 1) text.toList))

/-- Drops a byte of a set after the same byte. -/
def squeeze (set : List UInt8) : List UInt8 → List UInt8
  | a :: b :: rest =>
    if a = b && set.contains a then squeeze set (b :: rest) else a :: squeeze set (b :: rest)
  | bytes => bytes

/-- Puts the bytes of one set in place of those of another. -/
def translate (source target : List UInt8) (b : UInt8) : UInt8 :=
  match source.reverse.idxOf? b with
  | none => b
  | some back =>
    let index := source.length - 1 - back
    (target[index]?).getD (target.getLast?.getD b)

/-- Replaces, deletes or squeezes bytes of its input. -/
def tr : Utility := fun call m =>
  let (options, operands) := splitOptions call.args
  match operands with
  | [] => refuse call m "missing operand"
  | [only] =>
    if options.contains 'd' || options.contains 's' then translateInput options operands call m
    else refuse call m
      s!"missing operand after '{only}'\nTwo strings must be given when translating."
  | operands => translateInput options operands call m
where
  /-- Changes the bytes of the input. -/
  translateInput (options : List Char) (operands : List String) : Utility := fun call m =>
  let (bytes, m) := m.readAll (Machine.target call.fds 0)
  let first := byteSet (operands.head?.getD "")
  let second := byteSet ((operands[1]?).getD "")
  let inFirst (b : UInt8) : Bool :=
    first.contains b != (options.contains 'c' || options.contains 'C')
  let bytes :=
    if options.contains 'd' then bytes.filter (fun b => !inFirst b)
    else if second.isEmpty then bytes
    else if options.contains 'c' || options.contains 'C' then
      bytes.map (fun b => if inFirst b then second.getLast?.getD b else b)
    else bytes.map (translate first second)
  let bytes := if options.contains 's' then
      squeeze (if second.isEmpty then first else second) bytes
    else bytes
  (0, m.writeTo call.fds 1 bytes)

/-! ## Order of lines -/

/-- The whole number that a line begins with. -/
def lineNumber (line : List Char) : Int :=
  match line.dropWhile (" \t".toList.contains ·) with
  | '-' :: ds => -(Decimal.natOfDigits (ds.takeWhile Decimal.isDigit) : Int)
  | ds => (Decimal.natOfDigits (ds.takeWhile Decimal.isDigit) : Int)

/-- What lines are sorted by. -/
structure SortKey where
  /-- The first of the fields, counted from zero. -/
  first : Nat
  /-- The field after the last one; all fields if there is none. -/
  stop : Option Nat
  /-- Whether it is a number. -/
  numeric : Bool
  /-- Whether larger ones come first. -/
  descending : Bool

/-- Splits a line into fields, each with the blanks in front of it; `started` says that the field
has begun. -/
def blankFields (started : Bool) : List Char → List (List Char)
  | [] => [[]]
  | c :: rest =>
    let isBlank := c = ' ' || c = '\t'
    if isBlank && started then
      match blankFields false rest with
      | field :: more => [] :: (c :: field) :: more
      | [] => [[], [c]]
    else
      match blankFields (!isBlank) rest with
      | field :: more => (c :: field) :: more
      | [] => [[c]]

/-- The text that lines are sorted by. -/
def SortKey.text (key : SortKey) (mark : Option String) (line : String) : List Char :=
  match mark with
  | some mark =>
    let fields := line.splitOn mark
    (mark.intercalate ((fields.take (key.stop.getD fields.length)).drop key.first)).toList
  | none =>
    let fields := blankFields false line.toList
    ((fields.take (key.stop.getD fields.length)).drop key.first).flatten

/-- How a key orders two lines. -/
def SortKey.compare (key : SortKey) (mark : Option String) (a b : String) : Ordering :=
  let x := key.text mark a
  let y := key.text mark b
  let order :=
    if key.numeric then Ord.compare (lineNumber x) (lineNumber y)
    else Ord.compare (String.ofList x) (String.ofList y)
  if key.descending then order.swap else order

/-- Reads a key such as `2`, `2,3` or `1n`. -/
def readKey (numeric descending : Bool) (text : String) : SortKey :=
  let parts := text.splitOn ","
  let number (part : String) : Nat := Decimal.natOfDigits (part.toList.takeWhile Decimal.isDigit)
  { first := number (parts.head?.getD "") - 1
    stop := (parts[1]?).map number
    numeric := numeric || text.toList.contains 'n'
    descending := descending || text.toList.contains 'r' }

/-- Sorts lines. -/
def sort : Utility := fun call m =>
  let (options, operands) := parseOptions ['k', 't', 'o'] call.args
  let has (c : Char) : Bool := options.any (fun (letter, _) => letter == c)
  let (ls, fine, m) := readTextLines call operands m
  let given := (options.filter (fun (letter, _) => letter == 'k')).map (fun (_, text) =>
    readKey (has 'n') (has 'r') text)
  let whole : SortKey := ⟨0, none, has 'n', has 'r'⟩
  let keys := if given.isEmpty then [whole] else given
  let mark := optionArg? options 't'
  let byKeys (a b : String) : Ordering :=
    keys.foldl (fun order key => order.then (key.compare mark a b)) .eq
  let full (a b : String) : Ordering :=
    let order := Ord.compare a b
    (byKeys a b).then (if has 's' || has 'u' then .eq else if has 'r' then order.swap else order)
  let sorted := ls.mergeSort (fun a b => full a b != .gt)
  let sorted := if has 'u' then dropRepeats (fun a b => byKeys a b == .eq) sorted else sorted
  (if fine then 0 else 2, writeTextLines call m sorted)
where
  /-- Drops a line after one that counts as the same. -/
  dropRepeats (same : String → String → Bool) : List String → List String
    | a :: b :: rest =>
      if same a b then dropRepeats same (a :: rest) else a :: dropRepeats same (b :: rest)
    | ls => ls

/-- The lines that follow each other without change, counted. -/
def countRuns : List String → List (Nat × String)
  | [] => []
  | line :: rest =>
    match countRuns rest with
    | (n, other) :: more =>
      if line = other then (n + 1, other) :: more else (1, line) :: (n, other) :: more
    | [] => [(1, line)]

/-- Drops repeated lines, or counts them. -/
def uniq : Utility := fun call m =>
  let (options, operands) := splitOptions call.args
  let (ls, fine, m) := readTextLines call operands m
  let runs := (countRuns ls).filter (fun (n, _) =>
    (!options.contains 'd' || n > 1) && (!options.contains 'u' || n = 1))
  let lineOf : Nat × String → String := fun (n, line) =>
    if options.contains 'c' then rightAlign 7 n ++ " " ++ line else line
  (codeOf fine, writeTextLines call m (runs.map lineOf))

/-- Turns lines around. -/
def rev : Utility := fun call m =>
  let (parts, fine, m) := readOperands call (orInput call.args) m
  let turned (bytes : List UInt8) : List UInt8 :=
    let ls := (textLines bytes).map (fun l => Utf8.encode (String.ofList l.toList.reverse))
    if endsInLine bytes then (joinLines ls).dropLast else joinLines ls
  (codeOf fine, m.writeTo call.fds 1 (parts.flatMap (fun (_, bytes) => turned bytes)))

/-- Copies the lines of each operand from the last to the first. -/
def tac : Utility := fun call m =>
  let (_, operands) := splitOptions call.args
  let (parts, fine, m) := readOperands call (orInput operands) m
  (codeOf fine, writeTextLines call m (parts.flatMap (fun (_, bytes) => (textLines bytes).reverse)))

/-! ## Counts -/

/-- The lines, words and bytes of an input. -/
def countsOf (options : List Char) (bytes : List UInt8) : List Nat :=
  let text := Utf8.decodeLossy bytes
  let isSpace (c : Char) : Bool := c = ' ' || ('\t' ≤ c && c ≤ '\r')
  let words := (text.toList.foldl (fun (acc : Nat × Bool) c =>
    (if !isSpace c && !acc.2 then acc.1 + 1 else acc.1, !isSpace c)) (0, false)).1
  let wanted (c : Char) : Bool := options.isEmpty || options.contains c
  (if wanted 'l' then [bytes.count 10] else []) ++ (if wanted 'w' then [words] else []) ++
    (if options.contains 'm' then [bytes.length] else []) ++
    (if wanted 'c' then [bytes.length] else [])

/-- Counts lines, words and bytes. -/
def wc : Utility := fun call m =>
  let (options, operands) := splitOptions call.args
  let (parts, fine, m) := readOperands call (orInput operands) m
  let rows := parts.map (fun (path, bytes) => (path, countsOf options bytes))
  let total := (parts.map (fun (_, bytes) => bytes.length)).foldl (· + ·) 0
  let single := rows.length = 1 && (rows.head?.any (fun (_, counts) => counts.length = 1))
  let width := if operands.isEmpty || operands.contains "-" then 7 else (toString total).length
  let lineOf (row : String × List Nat) : String :=
    " ".intercalate (row.2.map (rightAlign (if single then 0 else width))) ++
      (if operands.isEmpty then "" else " " ++ row.1)
  let sums := [("total", countsOf options (parts.flatMap (·.2)))]
  (codeOf fine, writeTextLines call m ((if rows.length > 1 then rows ++ sums else rows).map lineOf))

end Utility

end Runbook.Shell
