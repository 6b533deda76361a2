/-!
# Bytes and characters

Text is written to files and processes as UTF-8.  Reading is lossy where a process printed
something else: each maximal piece that could start a character but does not finish one becomes
a single replacement character.

* `decode?` reads well-formed UTF-8 only;
* `decodeLossy` reads any bytes.
-/

namespace Runbook.Utf8

/-- The bytes of a text. -/
def encode (s : String) : List UInt8 := s.toUTF8.toList

/-- The number of bytes of a text. -/
def length (cs : List Char) : Nat := cs.foldl (fun n c => n + c.utf8Size) 0

/-- What the first bytes of a text are: a character and the bytes it takes, or a number of bytes
that are no character. -/
inductive Piece where
  /-- A character of so many bytes. -/
  | char (c : Char) (size : Nat)
  /-- So many bytes that start no character. -/
  | broken (size : Nat)

/-- Whether a byte continues a character, between the given bounds. -/
def continues (low high : Nat) (b : UInt8) : Bool := low ≤ b.toNat && b.toNat ≤ high

/-- The character whose bytes carry these bits. -/
def charOf (code size : Nat) : Piece :=
  if (Char.ofNat code).toNat = code then .char (Char.ofNat code) size else .broken 1

/-- The bounds of the second byte after a given first byte; they exclude overlong forms,
surrogates and what lies beyond the last code point. -/
def secondBounds (b : Nat) : Nat × Nat :=
  if b = 0xE0 then (0xA0, 0xBF)
  else if b = 0xED then (0x80, 0x9F)
  else if b = 0xF0 then (0x90, 0xBF)
  else if b = 0xF4 then (0x80, 0x8F)
  else (0x80, 0xBF)

/-- Reads one character, or the longest piece that could have started one. -/
def first (b : UInt8) (rest : List UInt8) : Piece :=
  let n := b.toNat
  let (low, high) := secondBounds n
  if n < 0x80 then charOf n 1
  else if 0xC2 ≤ n ∧ n ≤ 0xDF then
    match rest with
    | c :: _ => if continues low high c then charOf ((n % 32) * 64 + c.toNat % 64) 2 else .broken 1
    | [] => .broken 1
  else if 0xE0 ≤ n ∧ n ≤ 0xEF then
    match rest with
    | c :: d :: _ =>
      if !continues low high c then .broken 1
      else if !continues 0x80 0xBF d then .broken 2
      else charOf ((n % 16) * 4096 + (c.toNat % 64) * 64 + d.toNat % 64) 3
    | [c] => if continues low high c then .broken 2 else .broken 1
    | [] => .broken 1
  else if 0xF0 ≤ n ∧ n ≤ 0xF4 then
    match rest with
    | c :: d :: e :: _ =>
      if !continues low high c then .broken 1
      else if !continues 0x80 0xBF d then .broken 2
      else if !continues 0x80 0xBF e then .broken 3
      else charOf ((n % 8) * 262144 + (c.toNat % 64) * 4096 + (d.toNat % 64) * 64 + e.toNat % 64) 4
    | [c, d] =>
      if !continues low high c then .broken 1
      else if !continues 0x80 0xBF d then .broken 2
      else .broken 3
    | [c] => if continues low high c then .broken 2 else .broken 1
    | [] => .broken 1
  else .broken 1

/-- Reads bytes; `skip` of them belong to a character already read. -/
def decodeFrom (skip : Nat) : List UInt8 → List (Option Char)
  | [] => []
  | b :: rest =>
    match skip with
    | n + 1 => decodeFrom n rest
    | 0 =>
      match first b rest with
      | .char c size => some c :: decodeFrom (size - 1) rest
      | .broken size => none :: decodeFrom (size - 1) rest

/-- Any bytes as text, with a replacement character for every broken piece. -/
def decodeLossy (bytes : List UInt8) : String :=
  String.ofList ((decodeFrom 0 bytes).map (·.getD '\uFFFD'))

/-- Well-formed bytes as text. -/
def decode? (bytes : List UInt8) : Option String :=
  ((decodeFrom 0 bytes).mapM id).map String.ofList

end Runbook.Utf8
