import Runbook.Callback.Registry
import Runbook.Json.Value
import Runbook.Number.Decimal
import Runbook.Session.Outcome
import Runbook.Text.Utf8

/-!
# The callback listener

The listener to which the programs in panes report, over HTTP with a form in the body.

* `Listener.deliver` takes a report in if it has the token of the run;
* `Form.decode` reads a form;
* `Listener.answer` answers a request;
* `choosePort?` is the first free port of a range.
-/

namespace Runbook.Callback

/-- A report of a pane. -/
structure Report where
  /-- The pane. -/
  pane : String
  /-- The token that it was given. -/
  token : String
  /-- What it reports. -/
  signal : Signal
  deriving DecidableEq, Repr

/-- A listener and who waits for it. -/
structure Listener where
  /-- The port it listens on. -/
  port : Nat
  /-- The secret of the run. -/
  token : String
  /-- Whether requests reach it. -/
  reachable : Bool
  /-- Who waits for what. -/
  registry : Registry

/-- A request. -/
structure Request where
  /-- The method. -/
  method : String
  /-- The path. -/
  path : String
  /-- The type of the body. -/
  contentType : Option String
  /-- The body. -/
  body : String
  deriving DecidableEq, Repr

/-- The reply to a request. -/
structure Reply where
  /-- The status. -/
  status : Nat
  /-- The body, if there is one. -/
  body : Option Value

/-! ## Forms -/

namespace Form

/-- Splits at every character of a kind. -/
def splitAtAll (sep : Char) : List Char → List (List Char)
  | [] => [[]]
  | c :: rest =>
    if c = sep then [] :: splitAtAll sep rest
    else match splitAtAll sep rest with
      | [] => [[c]]
      | part :: more => (c :: part) :: more

/-- The bytes of an encoded text: a plus sign is a space, and a percent sign with two digits is the
byte that they write. -/
def decodeBytes : List Char → List UInt8
  | [] => []
  | '+' :: rest => 32 :: decodeBytes rest
  | '%' :: a :: b :: rest =>
    match Decimal.digitValueIn? 16 a, Decimal.digitValueIn? 16 b with
    | some high, some low => UInt8.ofNat (16 * high + low) :: decodeBytes rest
    | _, _ => 37 :: decodeBytes (a :: b :: rest)
  | c :: rest => Utf8.encode (String.singleton c) ++ decodeBytes rest

/-- An encoded text. -/
def decodeText (cs : List Char) : String := Utf8.decodeLossy (decodeBytes cs)

/-- A name and its value. -/
def decodePair (cs : List Char) : String × String :=
  (decodeText (cs.takeWhile (· != '=')), decodeText ((cs.dropWhile (· != '=')).drop 1))

/-- The names and values of a form. -/
def decode (body : String) : List (String × String) :=
  ((splitAtAll '&' body.toList).filter (!·.isEmpty)).map decodePair

/-- The values under a name. -/
def valuesOf (name : String) (form : List (String × String)) : List String :=
  (form.filter (·.1 == name)).map (·.2)

/-- The report in a form: a pane, and a token that may be missing. -/
def report? (signal : Signal) (body : String) : Option Report :=
  match valuesOf "pane_id" (decode body), valuesOf "token" (decode body) with
  | [pane], [] => some ⟨pane, "", signal⟩
  | [pane], [token] => some ⟨pane, token, signal⟩
  | _, _ => none

/-- The type of a body that is a form. -/
def contentType : String := "application/x-www-form-urlencoded"

/-- Whether a body of this type is a form. -/
def isForm (type : Option String) : Bool :=
  type.any (fun t => contentType.toList.isPrefixOf t.toList)

end Form

/-! ## Requests -/

namespace Listener

/-- A listener that nobody waits for. -/
def start (port : Nat) (token : String) (reachable : Bool) : Listener :=
  ⟨port, token, reachable, .empty⟩

/-- Where the listener is. -/
def url (l : Listener) : String := s!"http://127.0.0.1:{l.port}"

/-- What comes of a report: nothing if it has not the right token. -/
def deliver (l : Listener) (report : Report) : Option Verdict × Listener :=
  if report.token = l.token then
    let (verdict, registry) := l.registry.receive report.pane report.signal
    (some verdict, { l with registry })
  else (none, l)

/-- The reply to a report. -/
def replyTo : Option Verdict → Reply
  | none => ⟨401, some (.ofFields [("error", .string "invalid token")])⟩
  | some .gone => ⟨410, some (.ofFields [("ok", .bool false), ("delivered", .bool false)])⟩
  | some .delivered => ⟨200, some (.ofFields [("ok", .bool true), ("delivered", .bool true)])⟩
  | some .accepted => ⟨202, some (.ofFields [("ok", .bool true), ("delivered", .bool false)])⟩

/-- The reply to the question whether the listener is there. -/
def health : Reply :=
  ⟨200, some (.ofFields [("status", .string "ok"), ("server", .string "cadence-callback"),
    ("version", .string "0.1.0")])⟩

/-- The signal that is reported at a path. -/
def signalAt? (path : String) : Option Signal :=
  if path = "/complete" then some .complete
  else if path = "/exited" then some .exited
  else none

/-- Answers a request that has reached the listener. -/
def answer (l : Listener) (request : Request) : Reply × Listener :=
  match signalAt? request.path with
  | some signal =>
    if request.method ≠ "POST" then (⟨405, none⟩, l)
    else if !Form.isForm request.contentType then (⟨415, none⟩, l)
    else match Form.report? signal request.body with
      | none => (⟨422, none⟩, l)
      | some report =>
        let (verdict, l) := l.deliver report
        (replyTo verdict, l)
  | none =>
    if request.path = "/health" then
      if request.method = "GET" then (health, l) else (⟨405, none⟩, l)
    else (⟨404, none⟩, l)

/-- Makes a request; there is no reply if it does not reach the listener. -/
def request (l : Listener) (r : Request) : Option Reply × Listener :=
  if l.reachable then
    let (reply, l) := l.answer r
    (some reply, l)
  else (none, l)

end Listener

/-! ## Ports -/

/-- The last port there is. -/
def lastPort : Nat := 65535

/-- The last port of a range. -/
def rangeEnd (first span : Nat) : Nat := min lastPort (first + (span - 1))

/-- The first free port of a range; port 0 stands for any free port, `any` if there is one. -/
def choosePort (taken : Nat → Bool) (any : Option Nat) (first span : Nat) :
    Except Session.Fault Nat :=
  if first = 0 then
    match any with
    | some port => .ok port
    | none => .error (.noPort 0 0)
  else match (List.range' first (rangeEnd first span - first + 1)).find? (fun p => !taken p) with
    | some port => .ok port
    | none => .error (.noPort first (rangeEnd first span))

end Runbook.Callback
