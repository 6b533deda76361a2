import Runbook.Number.Binary64
import Runbook.Pattern.Node

/-!
# The weight of patterns

A pattern is searched for by a machine with states, and may not ask for a machine that takes too
much memory.  There is one machine for each direction; it works on the bytes of a text.

* `encodings` says which bytes the characters of a range are made of;
* `Node.weigh` is the memory of the machine for a node;
* `Node.isTooHeavy` says whether a pattern asks for too much.
-/

namespace Runbook.Pattern

/-! ## The bytes of characters -/

/-- A range of bytes. -/
abbrev ByteRange := Nat × Nat

/-- The bytes of the character with a code point. -/
def bytesOf (code : Nat) : List Nat :=
  let low (shift : Nat) : Nat := 0x80 + code / twoTo shift % 64
  if code < 0x80 then [code]
  else if code < 0x800 then [0xC0 + code / twoTo 6, low 0]
  else if code < 0x10000 then [0xE0 + code / twoTo 12, low 6, low 0]
  else [0xF0 + code / twoTo 18, low 12, low 6, low 0]

/-- Where a range of code points has to be cut first, if it has: where the number of bytes changes,
and where only some of the last bytes are taken of all that may follow the first ones.  The cut is
the last code point of the first part. -/
def cut? (low high : Nat) : Option Nat :=
  let bySize := [0x7F, 0x7FF, 0xFFFF].find? (fun last => low ≤ last && last < high)
  let byBlock := [64, 4096, 262144].findSome? (fun block =>
    if low / block = high / block then none
    else if low % block ≠ 0 then some (low / block * block + block - 1)
    else if high % block ≠ block - 1 then some (high / block * block - 1)
    else none)
  bySize.or (if high < 0x80 then none else byBlock)

/-- The parts of a range of code points that need no cut. -/
def cutAll : Nat → Nat → Nat → List (Nat × Nat)
  | 0, low, high => [(low, high)]
  | fuel + 1, low, high =>
    match cut? low high with
    | some last => cutAll fuel low last ++ cutAll fuel (last + 1) high
    | none => [(low, high)]

/-- A range without the code points that are no characters. -/
def withoutSurrogates (range : Nat × Nat) : List (Nat × Nat) :=
  let (low, high) := range
  [(low, min high 0xD7FF), (max low 0xE000, high)].filter (fun (l, h) => l ≤ h)

/-- The bytes that the characters of ranges are made of, in rising order. -/
def encodings (ranges : Ranges) : List (List ByteRange) :=
  (ranges.flatMap withoutSurrogates).flatMap (fun (low, high) =>
    (cutAll 32 low high).map (fun (l, h) => (bytesOf l).zip (bytesOf h)))

/-! ## Machines for sets of characters -/

/-- The memory of a state. -/
def stateBytes : Nat := 32

/-- The memory of one more way out of a state that reads a byte. -/
def arrowBytes : Nat := 8

/-- The memory of one more way out of a state that reads nothing. -/
def branchBytes : Nat := 4

/-- Puts sequences that begin alike into groups, the beginning taken off. -/
def groupByHead : List (List ByteRange) → List (ByteRange × List (List ByteRange))
  | [] => []
  | [] :: rest => groupByHead rest
  | (head :: tail) :: rest =>
    match groupByHead rest with
    | (next, tails) :: groups =>
      if next = head then (head, tail :: tails) :: groups
      else (head, [tail]) :: (next, tails) :: groups
    | [] => [(head, [tail])]

/-- A state: its ways out, each with the number of the state it leads to. -/
abbrev Arrows := List (ByteRange × Nat)

/-- Adds the states that read sequences of bytes, given from the end on, and gives the number of
the first; a state like one that is there already is not added again.  The end has the
number 0. -/
def addStates : Nat → List (List ByteRange) → StateM (List Arrows) Nat
  | 0, _ => return 0
  | depth + 1, sequences => do
    match groupByHead sequences with
    | [] => return 0
    | groups =>
      let arrows ← groups.mapM (fun (head, tails) => do return (head, ← addStates depth tails))
      let states ← get
      match states.findIdx? (· == arrows) with
      | some i => return states.length - i
      | none =>
        set (arrows :: states)
        return states.length + 1

/-- The number of ways in which sequences of bytes begin. -/
def beginnings : Nat → List (List ByteRange) → Nat
  | 0, _ => 0
  | depth + 1, sequences =>
    (groupByHead sequences).foldl (fun n (_, tails) => n + 1 + beginnings depth tails) 0

/-- The memory of a machine that reads one character of a set. -/
def setBytes (backwards : Bool) (ranges : Ranges) : Nat :=
  match ranges with
  | [] => stateBytes
  | _ =>
    let isSingle := ranges.length = 1 && ranges.all (fun (low, high) => low = high)
    let ascii := ranges.all (fun (_, high) => high < 0x80)
    if isSingle then stateBytes * (ranges.flatMap (fun (low, _) => bytesOf low)).length
    else if ascii then 2 * stateBytes + arrowBytes * ranges.length
    else
      let sequences := encodings ranges
      if backwards then
        2 * stateBytes + branchBytes * sequences.length + stateBytes * beginnings 4 sequences
      else
        let (_, states) := (addStates 4 sequences).run []
        stateBytes + states.foldl (fun n arrows => n + stateBytes + arrowBytes * arrows.length) 0

/-- No less than the memory of a machine that reads one character of a set, without looking at the
bytes. -/
def roughSetBytes (ranges : Ranges) : Nat := 2 * stateBytes + 2560 * ranges.length

/-! ## Machines for patterns -/

/-- The words of a choice between words. -/
def Node.words? : Node → Option (List (List Nat))
  | .set [(low, high)] => if low = high then some [bytesOf low] else none
  | .both first second => do
    match ← first.words?, ← second.words? with
    | [a], [b] => some [a ++ b]
    | _, _ => none
  | .either left right => do return (← left.words?) ++ (← right.words?)
  | _ => none

/-- The memory of a machine that reads one of some words, beginnings shared. -/
def wordsBytes : Nat → List (List Nat) → Nat
  | 0, _ => 0
  | depth + 1, words =>
    let going := words.filter (!·.isEmpty)
    let heads := (going.filterMap List.head?).eraseDups
    if heads.isEmpty then 0
    else
      let ending := if going.length < words.length then branchBytes else 0
      let here := stateBytes + branchBytes + ending + stateBytes +
        (if heads.length = 1 then 0 else arrowBytes * heads.length)
      heads.foldl (fun n head =>
        n + wordsBytes depth ((going.filter (·.head? == some head)).map List.tail)) here

/-- The memory of a machine. -/
structure Weight where
  /-- Its bytes. -/
  bytes : Nat
  /-- The bytes of a link from its last state to another one. -/
  link : Nat
  /-- The bytes that it takes as one of several alternatives. -/
  choice : Nat

namespace Weight

/-- A machine that is no choice. -/
def single (bytes link : Nat) : Weight := ⟨bytes, link, bytes + branchBytes + link⟩

/-- A machine that goes on with another one. -/
def followedBy (first second : Weight) : Weight :=
  single (first.bytes + first.link + second.bytes) second.link

/-- The bytes of a number of copies in a row, the link from the last one included. -/
def copies (body : Weight) (n : Nat) : Nat :=
  if n = 0 then stateBytes else n * (body.bytes + body.link)

/-- A machine that goes through the same over and over. -/
def repeated (body : Weight) (takesAny : Bool) (least : Nat) (most : Option Nat) : Weight :=
  match least, most with
  | 0, some 1 => single (2 * stateBytes + 2 * branchBytes + body.bytes + body.link) 0
  | 0, none =>
    if takesAny then
      single (stateBytes + branchBytes + body.bytes + body.link) branchBytes
    else single (3 * stateBytes + 4 * branchBytes + body.bytes + body.link) 0
  | least, none => single (stateBytes + branchBytes + body.copies least) branchBytes
  | least, some most =>
    if least = most then single (body.copies most - body.link) body.link
    else
      let more := (most - least) * (stateBytes + 2 * branchBytes + body.bytes + body.link)
      single (body.copies least + stateBytes + more) 0

end Weight

/-- The memory of the machine for a node, given that of the machines for sets. -/
def Node.weigh (backwards : Bool) (ofSet : Ranges → Nat) : Node → Weight
  | .empty => .single stateBytes 0
  | .set ranges => .single (ofSet ranges) 0
  | .look _ => .single stateBytes 0
  | .count least most body => (body.weigh backwards ofSet).repeated body.takesAny least most
  | .both first second =>
    let first := first.weigh backwards ofSet
    let second := second.weigh backwards ofSet
    if backwards then second.followedBy first else first.followedBy second
  | .either left right =>
    let choice := (left.weigh backwards ofSet).choice + (right.weigh backwards ofSet).choice
    match Node.words? (.either left right) with
    | some words =>
      let words := if backwards then words.map List.reverse else words
      let longest := words.foldl (fun n word => max n word.length) 0
      ⟨stateBytes + wordsBytes (longest + 1) words, 0, choice⟩
    | none => ⟨2 * stateBytes + choice, 0, choice⟩
  | .capture body =>
    let body := body.weigh backwards ofSet
    if backwards then body else .single (body.bytes + 2 * stateBytes + body.link) 0

/-- The memory that a machine may take. -/
def weightLimit : Nat := 10485760

/-- The memory of the machine for a pattern in one direction.  It starts anywhere in a text, and
what the whole pattern matches is remembered. -/
def Node.machineBytes (backwards : Bool) (ofSet : Ranges → Nat) (node : Node) : Nat :=
  let whole := if backwards then node else .capture node
  let weight := whole.weigh backwards ofSet
  weight.bytes + weight.link + 4 * stateBytes + arrowBytes + 2 * branchBytes

/-- Whether one of the machines for a pattern takes too much memory. -/
def Node.isTooHeavy (node : Node) : Bool :=
  weightLimit < node.machineBytes false roughSetBytes &&
    (weightLimit < node.machineBytes false (setBytes false) ||
      weightLimit < node.machineBytes true (setBytes true))

end Runbook.Pattern
