import Runbook.Document.Node

/-!
# Drafts of documents

What a text says before its anchors are looked up.  An anchor gives a number to a node, and using
the anchor stands for the node that has this number in the end: the number of an anchor is how many
names there were before, so a name that is given again may hand its number on to another one.

* `Draft` is a node in which anchors are used;
* `Shape` says which fields of records are of interest; the others are passed over unread;
* `Document.read?` looks the anchors up wherever they are of interest.  A document that is nested
  too deep, or uses its anchors too often, is refused.
-/

namespace Runbook

/-- A node in which anchors are used. -/
inductive Draft where
  /-- A scalar. -/
  | scalar (text : String) (style : Style) (tag : Option Tag)
  /-- A list. -/
  | list (items : List Draft) (tag : Option Tag)
  /-- A map, in the order in which it was written. -/
  | map (entries : List (Draft × Draft)) (tag : Option Tag)
  /-- The use of an anchor with this number. -/
  | use (number : Nat)
  deriving Repr

instance : Inhabited Draft := ⟨.use 0⟩

/-- Which parts of a node are of interest. -/
inductive Shape where
  /-- All of it. -/
  | whole
  /-- The items of a list, each as far as it is of interest. -/
  | items (each : Shape)
  /-- The fields of a record, each as far as it is of interest. -/
  | fields (names : List (String × Shape))

namespace Shape

/-- What is of interest of an item. -/
def ofItem : Shape → Shape
  | .items each => each
  | _ => .whole

/-- What is of interest of a field, if anything is. -/
def ofField? (shape : Shape) (name : String) : Option Shape :=
  match shape with
  | .fields names => (names.find? (·.1 == name)).map (·.2)
  | _ => some .whole

/-- Whether the fields of a record are told by their names. -/
def isRecord : Shape → Bool
  | .fields _ => true
  | _ => false

end Shape

/-- A document: its outermost node, and the nodes that have numbers. -/
structure Document where
  /-- The outermost node. -/
  root : Draft
  /-- The nodes with numbers. -/
  numbered : List (Nat × Draft)
  /-- The number of its parts, the two ends of a list or map counting as two. -/
  size : Nat

namespace Document

/-- How deep a document may be nested. -/
def depthLimit : Nat := 128

/-- How often a document may use its anchors for each of its parts. -/
def useLimit : Nat := 100

/-- A part of reading a document, with the number of uses that are left. -/
abbrev Reading := StateT Nat Option

/-- The node that a draft stands for, which is no use of an anchor. -/
def lookUp (d : Document) : Draft → Reading Draft
  | .use number => do
    match ← get, d.numbered.find? (·.1 == number) with
    | left + 1, some (_, target) => set left; return target
    | _, _ => failure
  | draft => return draft

/-- Reads a node as far as it is of interest, given how the parts inside it are read. -/
def readWith (part : Shape → Draft → Reading Node) (shape : Shape) : Draft → Reading Node
  | .scalar text style tag => return .written text style tag
  | .list items tag => do
    return .list (← items.mapM (part shape.ofItem)) (.written tag)
  | .map entries tag => do
    let read ← entries.mapM (fun (key, value) => do
      let key ← part .whole key
      if shape.isRecord then
        match key.text? with
        | none => failure
        | some name =>
          match shape.ofField? name with
          | some shape => return some (key, ← part shape value)
          | none => return none
      else return some (key, ← part .whole value))
    return .map (read.filterMap id) (.written tag)
  | .use _ => failure

/-- Whether a draft has parts inside it. -/
def isNested : Draft → Bool
  | .scalar _ _ _ => false
  | _ => true

/-- Reads a node that may be nested `depth` deep. -/
def readNode (d : Document) : (depth : Nat) → Shape → Draft → Reading Node
  | 0, shape, draft => do
    let draft ← d.lookUp draft
    if isNested draft then failure else readWith (fun _ _ => failure) shape draft
  | depth + 1, shape, draft => do
    readWith (readNode d depth) shape (← d.lookUp draft)

/-- Reads a document as far as it is of interest. -/
def read? (d : Document) (shape : Shape) : Option Node :=
  ((readNode d depthLimit shape d.root).run (useLimit * d.size)).map (·.1)

end Document

end Runbook
