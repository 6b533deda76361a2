/-!
# Paths

Paths as texts.  Slashes separate the components; a path that begins with one is absolute.

* `Path.join` puts a path behind another, unless it is absolute;
* `Path.parent?` drops the last component;
* `Path.fileName?` and `Path.stem?` name the last component, with and without its ending;
* `Path.components` lists the components for a walk.
-/

namespace Runbook.Path

/-- Whether the path begins at the root. -/
def isAbsolute (p : String) : Bool := p.toList.head? == some '/'

/-- Puts a path behind another. -/
def join (base p : String) : String :=
  if isAbsolute p || base.isEmpty then p
  else if base.toList.getLast? == some '/' then base ++ p
  else base ++ "/" ++ p

/-- Splits at every slash. -/
def split : List Char → List (List Char)
  | [] => [[]]
  | c :: rest =>
    if c = '/' then [] :: split rest
    else match split rest with
      | [] => [[c]]
      | part :: more => (c :: part) :: more

/-- The components to walk along; a slash at the end asks for a directory, as a dot does. -/
def components (p : String) : List String :=
  let parts := split p.toList
  let named := (parts.filter (!·.isEmpty)).map String.ofList
  if parts.getLast? == some [] ∧ !named.isEmpty then named ++ ["."] else named

/-- Drops slashes and lone dots at the end; the text is given backwards, and `fuel` is at least its
length. -/
def trimTail : Nat → List Char → List Char
  | fuel + 1, '/' :: c :: rest => trimTail fuel (c :: rest)
  | _ + 1, ['.', '/'] => ['/']
  | fuel + 1, '.' :: '/' :: rest => trimTail fuel ('/' :: rest)
  | _, r => r

/-- A path backwards, without slashes and lone dots at its end. -/
def backwards (p : String) : List Char := trimTail p.length p.toList.reverse

/-- The path without its last component. -/
def parent? (p : String) : Option String :=
  match backwards p with
  | [] | ['/'] => none
  | r =>
    let rest := r.dropWhile (· != '/')
    some (String.ofList (trimTail rest.length rest).reverse)

/-- The last component, if it is a name. -/
def fileName? (p : String) : Option String :=
  let name := String.ofList ((backwards p).takeWhile (· != '/')).reverse
  if name.isEmpty || name == "." || name == ".." then none else some name

/-- The last component without its last ending; a dot in front begins no ending. -/
def stem? (p : String) : Option String :=
  (fileName? p).map (fun name =>
    let r := name.toList.reverse
    match r.dropWhile (· != '.') with
    | '.' :: c :: rest => String.ofList (c :: rest).reverse
    | _ => name)

end Runbook.Path
