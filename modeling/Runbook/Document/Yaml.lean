import Runbook.Document.Draft
import Runbook.Document.Token

/-!
# Reading YAML

The second half of reading YAML: a row of tokens becomes a document.

* `Grammar` is the state: the tokens still to come, the numbers of anchors, the short forms of tags;
* `parseNode` and the functions beside it follow the grammar;
* `yaml?` reads a text that holds exactly one document.
-/

namespace Runbook.Document

/-- Where the grammar stands. -/
structure Grammar where
  /-- The tokens still to come. -/
  tokens : List Token
  /-- The numbers of the anchors, the last one first. -/
  anchors : List (String × Nat) := []
  /-- For each number the place of the last node that got it, the last one first. -/
  places : List (Nat × Nat) := []
  /-- The nodes with anchors, by place. -/
  nodes : List (Nat × Draft) := []
  /-- How many parts there have been. -/
  parts : Nat := 0
  /-- The short forms of tags. -/
  shorts : List (String × List UInt8) := []

/-- A part of the grammar. -/
abbrev Parse := StateT Grammar Option

/-- The next token. -/
def peek : Parse Token := do return (← get).tokens.headD .streamEnd

/-- Drops the next token. -/
def drop : Parse Unit := modify (fun g => { g with tokens := g.tokens.tail })

/-- Drops the next token if it is the one given, and fails if it is not. -/
def expect (t : Token) : Parse Unit := do
  if (← peek) == t then drop else failure

/-- The anchor and the tag in front of a node. -/
structure Properties where
  /-- The anchor. -/
  anchor : Option String := none
  /-- The octets of the tag. -/
  tag : Option (List UInt8) := none

/-- What the tag says. -/
def Properties.tagged (p : Properties) : Option Tag := p.tag.map Tag.ofOctets

/-- The tag that its two parts stand for. -/
def resolveTag (handle : String) (suffix : List UInt8) : Parse (List UInt8) := do
  if handle.isEmpty then return suffix
  match (← get).shorts.find? (·.1 == handle) with
  | some (_, expansion) => return expansion ++ suffix
  | none =>
    if handle == "!" then return Scanner.exclamation :: suffix
    else if handle == "!!" then return Utf8.encode Tag.coreSpace ++ suffix
    else failure

/-- Reads an anchor. -/
def parseAnchor (p : Properties) : Parse Properties := do
  match ← peek with
  | .anchor name => drop; return { p with anchor := some name }
  | _ => return p

/-- Reads a tag. -/
def parseTag (p : Properties) : Parse Properties := do
  match ← peek with
  | .tag handle suffix => drop; return { p with tag := some (← resolveTag handle suffix) }
  | _ => return p

/-- Reads an anchor and a tag in either order. -/
def parseProperties : Parse Properties := do
  match ← peek with
  | .anchor _ => parseTag (← parseAnchor {})
  | .tag _ _ => parseAnchor (← parseTag {})
  | _ => return {}

/-- Counts a part, and gives the number of those before it. -/
def countPart : Parse Nat := do
  let n := (← get).parts
  modify (fun g => { g with parts := n + 1 })
  return n

/-- Gives a number to the anchor of a node that begins here: how many other names there are. -/
def numberAnchor (place : Nat) (name : String) : Parse Unit :=
  modify (fun g =>
    let number := g.anchors.length
    { g with
      anchors := (name, number) :: g.anchors.filter (·.1 != name)
      places := (number, place) :: g.places.filter (·.1 != number) })

/-- Begins a node, and gives its place. -/
def beginNode (p : Properties) : Parse Nat := do
  let place ← countPart
  match p.anchor with
  | some name => numberAnchor place name
  | none => pure ()
  return place

/-- Files a node that began at a place. -/
def endNode (p : Properties) (place : Nat) (draft : Draft) : Parse Draft := do
  if p.anchor.isSome then modify (fun g => { g with nodes := (place, draft) :: g.nodes })
  return draft

/-- A scalar. -/
def scalarOf (p : Properties) (text : String) (style : Style) (tag : Option Tag) :
    Parse Draft := do
  endNode p (← beginNode p) (.scalar text style tag)

/-- The scalar that stands for a node that is not there. -/
def blank : Parse Draft := scalarOf {} "" .plain none

/-- A list of nodes. -/
def listOf (p : Properties) (items : Parse (List Draft)) : Parse Draft := do
  let place ← beginNode p
  let items ← items
  discard countPart
  endNode p place (.list items p.tagged)

/-- A map of nodes. -/
def mapOf (p : Properties) (entries : Parse (List (Draft × Draft))) : Parse Draft := do
  let place ← beginNode p
  let entries ← entries
  discard countPart
  endNode p place (.map entries p.tagged)

mutual

/-- Reads a node.  In a block it may be a list or map in an indentation of its own; `loose` says
that it may also be a list in the indentation of the map around it. -/
def parseNode (block loose : Bool) : Nat → Parse Draft
  | 0 => failure
  | fuel + 1 => do
    match ← peek with
    | .alias name =>
      drop
      discard countPart
      match (← get).anchors.find? (·.1 == name) with
      | some (_, number) => return .use number
      | none => failure
    | _ =>
      let p ← parseProperties
      let t ← peek
      match t with
      | .item =>
        if loose then listOf p (parseLoose fuel) else parseAbsent p
      | .scalar text style =>
        drop
        let isBare := p.tag == some [Scanner.exclamation]
        scalarOf p text (if isBare then .plain else style) (if isBare then none else p.tagged)
      | .listOpen => drop; listOf p (parseFlowList true fuel)
      | .mapOpen => drop; mapOf p (parseFlowMap true fuel)
      | .blockList => if block then do drop; listOf p (parseItems fuel) else parseAbsent p
      | .blockMap => if block then do drop; mapOf p (parseEntries fuel) else parseAbsent p
      | _ => parseAbsent p

/-- A node of which there is only an anchor or a tag. -/
def parseAbsent (p : Properties) : Parse Draft :=
  if p.anchor.isSome || p.tag.isSome then scalarOf p "" .plain p.tagged else failure

/-- Reads the items of a list in an indentation of its own. -/
def parseItems : Nat → Parse (List Draft)
  | 0 => failure
  | fuel + 1 => do
    match ← peek with
    | .item =>
      drop
      let t ← peek
      let item ← if t == .item || t == .blockEnd then blank else parseNode true false fuel
      return item :: (← parseItems fuel)
    | .blockEnd => drop; return []
    | _ => failure

/-- Reads the items of a list in the indentation of the map around it. -/
def parseLoose : Nat → Parse (List Draft)
  | 0 => failure
  | fuel + 1 => do
    match ← peek with
    | .item =>
      drop
      let t ← peek
      let absent := t == .item || t == .key || t == .value || t == .blockEnd
      let item ← if absent then blank else parseNode true false fuel
      return item :: (← parseLoose fuel)
    | _ => return []

/-- Reads a key or value of a map in an indentation of its own, after its token. -/
def parsePart : Nat → Parse Draft
  | 0 => failure
  | fuel + 1 => do
    let t ← peek
    if t == .key || t == .value || t == .blockEnd then blank else parseNode true true fuel

/-- Reads the entries of a map in an indentation of its own. -/
def parseEntries : Nat → Parse (List (Draft × Draft))
  | 0 => failure
  | fuel + 1 => do
    match ← peek with
    | .key =>
      drop
      let key ← parsePart fuel
      let value ← parseBlockValue fuel
      return (key, value) :: (← parseEntries fuel)
    | .blockEnd => drop; return []
    | _ => failure

/-- Reads a value of a map in an indentation of its own, if there is one. -/
def parseBlockValue : Nat → Parse Draft
  | 0 => failure
  | fuel + 1 => do
    if (← peek) == .value then do drop; parsePart fuel else blank

/-- Reads the items of a list in brackets. -/
def parseFlowList (first : Bool) : Nat → Parse (List Draft)
  | 0 => failure
  | fuel + 1 => do
    if (← peek) == .listClose then do drop; return []
    else
      if !first then expect .comma
      match ← peek with
      | .listClose => drop; return []
      | .key =>
        drop
        let pair ← mapOf {} (do
          let key ← parsePairKey fuel
          return [(key, ← parseFlowValue .listClose fuel)])
        return pair :: (← parseFlowList false fuel)
      | _ =>
        let item ← parseNode false false fuel
        return item :: (← parseFlowList false fuel)

/-- Reads a key within brackets.  If there is none, what stands there instead is dropped. -/
def parsePairKey : Nat → Parse Draft
  | 0 => failure
  | fuel + 1 => do
    let t ← peek
    if t == .value || t == .comma || t == .listClose then do drop; blank
    else parseNode false false fuel

/-- Reads a key within braces, if there is one. -/
def parseFlowKey : Nat → Parse Draft
  | 0 => failure
  | fuel + 1 => do
    let t ← peek
    if t == .value || t == .comma || t == .mapClose then blank else parseNode false false fuel

/-- Reads a value within brackets or braces, if there is one. -/
def parseFlowValue (close : Token) : Nat → Parse Draft
  | 0 => failure
  | fuel + 1 => do
    if (← peek) == .value then
      drop
      let t ← peek
      if t == .comma || t == close then blank else parseNode false false fuel
    else blank

/-- Reads the entries of a map in braces. -/
def parseFlowMap (first : Bool) : Nat → Parse (List (Draft × Draft))
  | 0 => failure
  | fuel + 1 => do
    if (← peek) == .mapClose then do drop; return []
    else
      if !first then expect .comma
      match ← peek with
      | .mapClose => drop; return []
      | .key =>
        drop
        let key ← parseFlowKey fuel
        let value ← parseFlowValue .mapClose fuel
        return (key, value) :: (← parseFlowMap false fuel)
      | _ =>
        let key ← parseNode false false fuel
        let value ← blank
        return (key, value) :: (← parseFlowMap false fuel)

end

/-- Reads the directives in front of a document; `versioned` says that there was a version. -/
def parseDirectives (versioned : Bool) : Nat → Parse Bool
  | 0 => failure
  | fuel + 1 => do
    match ← peek with
    | .version known =>
      drop
      if versioned || !known then failure
      discard (parseDirectives true fuel)
      return true
    | .tagShort handle expansion =>
      drop
      if (← get).shorts.any (·.1 == handle) then failure
      modify (fun g => { g with shorts := (handle, expansion) :: g.shorts })
      discard (parseDirectives versioned fuel)
      return true
    | _ => return false

/-- Drops document ends. -/
def dropEnds : Nat → Parse Unit
  | 0 => return ()
  | fuel + 1 => do
    if (← peek) == .documentEnd then do drop; dropEnds fuel

/-- Reads the only document.  One without directives need not begin with a mark of its own, and one
that does may be empty. -/
def parseDocument (fuel : Nat) : Parse Draft := do
  if (← peek) == .streamEnd then failure
  let directives ← parseDirectives false fuel
  let started := (← peek) == .documentStart
  if started then drop
  else if directives then failure
  let draft ← match ← peek with
    | .version _ | .tagShort _ _ | .documentStart | .documentEnd | .streamEnd =>
      if started then blank else failure
    | _ => parseNode true false fuel
  dropEnds fuel
  expect .streamEnd
  return draft

/-- The document that a grammar has read. -/
def Grammar.document (g : Grammar) (root : Draft) : Document where
  root := root
  numbered := g.places.filterMap (fun (number, place) =>
    (g.nodes.find? (·.1 == place)).map (fun (_, draft) => (number, draft)))
  size := g.parts

/-- Reads a text that holds exactly one document. -/
def yaml? (text : String) : Option Document := do
  let tokens ← tokens? text.toList
  let (root, g) ← (parseDocument (4 * tokens.size + 8)).run { tokens := tokens.toList }
  return g.document root

end Runbook.Document
