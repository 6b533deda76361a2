import Runbook.Shell.Wildcard

/-!
# Fields

The fields that a text falls into at separators.  A blank separates together with other blanks, and
with one other separator among them; each further separator ends a field, even an empty one.

* `Piece` is a part of an expanded word, and `splitFields` splits such parts into words;
* `lineFields` splits a line into a number of fields, of which the last one takes the rest.
-/

namespace Runbook.Shell

/-- Whether a separator is a blank. -/
def isBlankSeparator (c : Char) : Bool := c = ' ' || c = '\t' || c = '\n'

/-! ## Words -/

/-- A part of an expanded word. -/
inductive Piece where
  /-- A character; `splits` says that the word may be split at it. -/
  | cell (cell : Cell) (splits : Bool)
  /-- The beginning of something that was put in. -/
  | seam
  /-- The end of an argument. -/
  | boundary
  /-- Quotes with nothing between them. -/
  | nothing
  deriving DecidableEq, Repr

/-- A word that is being put together. -/
structure Growing where
  /-- The words that are complete, the last one first. -/
  complete : List (List Cell)
  /-- The characters of the word, the last one first. -/
  cells : List Cell
  /-- Whether there is a word even if it has no characters. -/
  exists_ : Bool
  /-- Whether a blank has just ended a word, so that a separator may still belong to it. -/
  afterBlank : Bool

namespace Growing

/-- Before the first word. -/
def start : Growing := ⟨[], [], false, false⟩

/-- Completes the word, if there is one. -/
def close (g : Growing) : Growing :=
  if g.exists_ then ⟨g.cells.reverse :: g.complete, [], false, false⟩ else g

/-- Takes a separator in. -/
def separate (c : Char) (g : Growing) : Growing :=
  if isBlankSeparator c then { g.close with afterBlank := g.exists_ || g.afterBlank }
  else if g.afterBlank then { g with afterBlank := false }
  else { g with exists_ := true }.close

/-- Takes a piece in. -/
def add (separators : List Char) (g : Growing) : Piece → Growing
  | .seam => { g with afterBlank := false }
  | .boundary => { g with exists_ := true }.close
  | .nothing => { g with exists_ := true, afterBlank := false }
  | .cell cell splits =>
    if splits && separators.contains cell.char then g.separate cell.char
    else { g with cells := cell :: g.cells, exists_ := true, afterBlank := false }

end Growing

/-- Splits pieces into words. -/
def splitFields (separators : List Char) (pieces : List Piece) : List (List Cell) :=
  (pieces.foldl (Growing.add separators) Growing.start).close.complete.reverse

/-! ## Lines -/

/-- The characters of a line, in which a backslash protects the next one; one at the end stands for
nothing. -/
def lineCells : List Char → List Cell
  | [] => []
  | ['\\'] => []
  | '\\' :: c :: rest => ⟨c, true⟩ :: lineCells rest
  | c :: rest => ⟨c, false⟩ :: lineCells rest

/-- Whether a character of a line separates fields. -/
def separates (separators : List Char) (cell : Cell) : Bool :=
  separators.contains cell.char && !cell.isProtected

/-- Whether a character of a line is a blank that separates fields. -/
def separatesAsBlank (separators : List Char) (cell : Cell) : Bool :=
  separates separators cell && isBlankSeparator cell.char

/-- The rest of a line after what ends a field: a separator, and one more if the first is a blank;
blanks that follow are left. -/
def afterField (separators : List Char) : List Cell → List Cell
  | [] => []
  | first :: rest =>
    if separatesAsBlank separators first then
      match rest.dropWhile (separatesAsBlank separators) with
      | [] => []
      | second :: more => if separates separators second then more else second :: more
    else rest

/-- What follows the text of the last field, without its end.  The end is what has been `held` back
as long as nothing but blanks came after one separator, or after a blank and one separator. -/
def withoutEnd (separators : List Char) : (afterBlank : Bool) → (held : List Cell) → List Cell →
    List Cell
  | _, _, [] => []
  | afterBlank, held, cell :: rest =>
    if cell.isProtected && !held.isEmpty then
      withoutEnd separators false (held ++ [cell]) rest
    else if separatesAsBlank separators cell then
      withoutEnd separators afterBlank (held ++ [cell]) rest
    else if separates separators cell && afterBlank && !held.isEmpty then
      withoutEnd separators false (held ++ [cell]) rest
    else held ++ cell :: withoutEnd separators false [] rest

/-- The last field of a line: one field without what ends it, or all the rest without the blanks at
its end. -/
def lastField (separators : List Char) (cells : List Cell) : List Cell :=
  let field := cells.takeWhile (fun cell => !separates separators cell)
  match cells.drop field.length with
  | [] => field
  | first :: rest =>
    field ++ withoutEnd separators (isBlankSeparator first.char) [first] rest

/-- Splits a line into at most so many fields, of which the last one takes the rest. -/
def lineFields (separators : List Char) : (count : Nat) → List Cell → List String
  | 0, _ => []
  | count + 1, cells =>
    match cells.dropWhile (separatesAsBlank separators) with
    | [] => []
    | cells =>
      if count = 0 then [String.ofList (cellText (lastField separators cells))]
      else
        let field := cells.takeWhile (fun cell => !separates separators cell)
        String.ofList (cellText field) ::
          lineFields separators count (afterField separators (cells.drop field.length))

end Runbook.Shell
