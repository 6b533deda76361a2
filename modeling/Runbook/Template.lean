/-!
# Templates

A template is text in which `{path}` stands for the value of a variable.  A path is a name, a
letter or underscore followed by letters, digits, underscores and hyphens, and then any number of
segments of such characters, each after a dot.  Braces around anything else are plain text.

* `pieces` is the leftmost decomposition of a text into characters and placeholders;
* `fill` replaces every placeholder, once;
* `lone?` is the path of a template that consists of one placeholder;
* `segments` splits a path at its dots.
-/

namespace Runbook

/-- A part of a template. -/
inductive Piece where
  /-- A character that stands for itself. -/
  | literal (c : Char)
  /-- A placeholder with its path. -/
  | path (path : String)
  deriving DecidableEq, Repr

namespace Template

/-- Whether the character is one of the 26 letters, in either case. -/
def isLetter (c : Char) : Bool := ('a' ≤ c && c ≤ 'z') || ('A' ≤ c && c ≤ 'Z')

/-- Whether a name can begin with the character. -/
def startsName (c : Char) : Bool := isLetter c || c == '_'

/-- Whether the character can stand in a segment of a path. -/
def inSegment (c : Char) : Bool := startsName c || ('0' ≤ c && c ≤ '9') || c == '-'

/-- Whether the character can stand in a path. -/
def inPath (c : Char) : Bool := inSegment c || c == '.'

/-- Splits at every dot. -/
def segments : List Char → List (List Char)
  | [] => [[]]
  | c :: rest =>
    if c = '.' then [] :: segments rest
    else match segments rest with
      | [] => [[c]]
      | segment :: more => (c :: segment) :: more

/-- Whether the text is a path. -/
def isPath (cs : List Char) : Bool :=
  (match cs with
    | [] => false
    | c :: _ => startsName c) &&
  (segments cs).all (fun segment => !segment.isEmpty && segment.all inSegment)

/-- The placeholder whose opening brace stands right before the text, and what follows it. -/
def placeholder? (cs : List Char) : Option (String × List Char) :=
  match cs.dropWhile inPath with
  | '\x7d' :: after =>
    if isPath (cs.takeWhile inPath) then some (String.ofList (cs.takeWhile inPath), after) else none
  | _ => none

/-- What follows a placeholder is shorter than what follows its opening brace. -/
theorem length_lt_of_placeholder? {cs after : List Char} {path : String}
    (h : placeholder? cs = some (path, after)) : after.length < cs.length := by
  have hle := (List.dropWhile_suffix (p := inPath) (l := cs)).length_le
  unfold placeholder? at h
  split at h
  · next rest heq =>
    split at h
    · obtain ⟨-, rfl⟩ := Prod.mk.inj (Option.some.inj h)
      rw [heq, List.length_cons] at hle
      omega
    · simp at h
  · simp at h

/-- The characters and placeholders that the text consists of, from left to right. -/
def pieces : List Char → List Piece
  | [] => []
  | c :: rest =>
    if c = '\x7b' then
      match _h : placeholder? rest with
      | some (path, after) => .path path :: pieces after
      | none => .literal c :: pieces rest
    else .literal c :: pieces rest
termination_by cs => cs.length
decreasing_by
  · have := length_lt_of_placeholder? _h
    simp only [List.length_cons]
    omega
  all_goals simp

/-- The text that a piece turns into. -/
def fillPiece (render : String → List Char) : Piece → List Char
  | .literal c => [c]
  | .path path => render path

/-- Replaces every placeholder by what `render` makes of its path. -/
def fill (render : String → List Char) (cs : List Char) : List Char :=
  (pieces cs).flatMap (fillPiece render)

/-- The path of a text that is one placeholder. -/
def onlyPath? : List Piece → Option String
  | [.path path] => some path
  | _ => none

/-- Whether the piece is a placeholder. -/
def isPlaceholder : Piece → Bool
  | .literal _ => false
  | .path _ => true

/-- Whether a text has a placeholder. -/
def hasPlaceholder (cs : List Char) : Bool := (pieces cs).any isPlaceholder

end Template

end Runbook
