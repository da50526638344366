import SocketGateway.Error
import SocketGateway.Log.Record
import SocketGateway.Message.Server
import SocketGateway.Probe.Plan
import SocketGateway.Text.Quoted
import SocketGateway.Wire.Fault
import SocketGateway.Wire.Frame

/-!
# A visit

After the upgrade a probe takes down what the gateway sends, until the gateway closes the
connection or the time to stay is over. When it is greeted it sends its event, if it has one.
-/

namespace SocketGateway.Probe

open SocketGateway.Http (UpgradeError)
open SocketGateway.Log (Record)
open SocketGateway.Wire (CloseNotice Frame)

/-! ## The type -/

/-- What a probe took down: the status of the upgrade, the id it was given, the messages after
that, and whether the gateway ended the visit. -/
structure Report where
  status : Nat
  sid : Option String
  messages : List ServerMessage
  closedByServer : Bool

inductive Item where
  | inbound (f : Frame)
  | readFailed (w : Wire.Fault)
  | streamEnded
  | lingerOver
  | wrote
  | writeFailed (e : UpgradeError)
deriving DecidableEq, Repr

/-- What a probe does: wait, write its event, write its last frame, or nothing any more. -/
inductive Doing where
  | listening
  | emitting (event : String)
  | leaving
  | done (error : Option UpgradeError)
deriving DecidableEq, Repr

/-- A visit: the report so far, what the probe does, and what was logged, latest first. -/
structure Visit where
  report : Report
  doing : Doing
  log : List Record

namespace Visit

def start (status : Nat) : Visit := ⟨⟨status, none, [], false⟩, .listening, []⟩

/-! ## Frames of its own -/

/-- The frame of an event without arguments, its members by name. -/
def eventFrame (event : String) : Frame :=
  .text (Json.Value.object
    [("args", .array []), ("event", .string event), ("type", .string "event")]).render

def pending? (v : Visit) : Option Frame :=
  match v.doing with
  | .emitting event => some (eventFrame event)
  | .leaving => some (.close none)
  | _ => none

/-! ## What is logged -/

def optional : Option String → String
  | none => "None"
  | some s => "Some(" ++ s ++ ")"

def shown : Json.Value → String
  | .null => "Null"
  | .bool b => "Bool(" ++ (if b then "true" else "false") ++ ")"
  | .number n => "Number(" ++ (Json.Value.number n).render ++ ")"
  | .string s => "String(" ++ Text.quote s ++ ")"
  | .array vs => "Array " ++ Text.bracketed (shownAll vs)
  | .object ms => "Object \x7b" ++ ", ".intercalate (shownMembers ms) ++ "\x7d"
where
  shownAll : List Json.Value → List String
    | [] => []
    | v :: vs => shown v :: shownAll vs
  shownMembers : List (String × Json.Value) → List String
    | [] => []
    | (k, v) :: ms => (Text.quote k ++ ": " ++ shown v) :: shownMembers ms

def shownByte (b : UInt8) : List Char :=
  match b.toNat with
  | 0 => ['\\', '0']
  | 9 => ['\\', 't']
  | 10 => ['\\', 'n']
  | 13 => ['\\', 'r']
  | 34 => ['\\', '"']
  | 92 => ['\\', '\\']
  | n =>
    if 32 ≤ n ∧ n < 127 then [Char.ofNat n]
    else '\\' :: 'x' :: Json.hexByte n

def shownNotice (n : CloseNotice) : String :=
  "CloseFrame \x7b code: " ++ n.code.name ++ ", reason: Utf8Bytes(b\"" ++
    String.ofList ((Text.Utf8.encode n.reason).flatMap shownByte) ++ "\") \x7d"

def shownMessage : ServerMessage → String
  | .connected sid ns interval timeout =>
    "Connected \x7b sid: " ++ Text.quote sid ++ ", namespace: " ++ Text.quote ns ++
      ", ping_interval: " ++ toString interval.toNat ++ ", ping_timeout: " ++
      toString timeout.toNat ++ " \x7d"
  | .event name args =>
    "Event \x7b event: " ++ Text.quote name ++ ", args: " ++ Text.bracketed (args.map shown) ++ " \x7d"
  | .error message => "Error \x7b message: " ++ Text.quote message ++ " \x7d"

def upgradedRecord (url : String) (status : Nat) (accept : Option String) : Record :=
  ⟨.info, "transport upgraded to websocket",
    [("url", url), ("status", toString status), ("accept", optional (accept.map Text.quote))]⟩

def greetedRecord (sid ns : String) (interval timeout : UInt64) : Record :=
  ⟨.info, "handshake received", [("sid", sid), ("namespace", ns),
    ("ping_interval", toString interval.toNat), ("ping_timeout", toString timeout.toNat)]⟩

def finishedRecord (r : Report) : Record :=
  ⟨.info, "client finished", [("status", toString r.status),
    ("sid", optional (r.sid.map Text.quote)), ("messages", toString r.messages.length),
    ("closed_by_server", if r.closedByServer then "true" else "false")]⟩

def record (v : Visit) (r : Record) : Visit := { v with log := r :: v.log }

/-! ## Steps -/

def closed (v : Visit) (r : Record) : Visit :=
  { v.record r with report := { v.report with closedByServer := true }, doing := .done none }

def take (o : Options) (v : Visit) : ServerMessage → Visit
  | .connected sid ns interval timeout =>
    let v := v.record (greetedRecord sid ns interval timeout)
    { v with
      report := { v.report with sid := some sid }
      doing := match o.emit with
        | some event => .emitting event
        | none => .listening }
  | m =>
    let v := v.record ⟨.info, "server message " ++ shownMessage m, []⟩
    { v with report := { v.report with messages := v.report.messages ++ [m] } }

/-- Deals with what happens. What comes while the probe writes is left for later: only the end of
writing is heeded then. -/
def step (o : Options) (v : Visit) (item : Item) : Visit :=
  match v.doing, item with
  | .listening, .inbound (.text s) =>
    match ServerMessage.decode s with
    | .ok m => v.take o m
    | .error e => v.record ⟨.warn, "unparseable server message", [("error", e.message)]⟩
  | .listening, .inbound (.close notice) =>
    v.closed ⟨.info, "server closed the connection",
      [("frame", optional (notice.map shownNotice))]⟩
  | .listening, .readFailed w => v.closed ⟨.warn, "connection lost", [("error", w.message)]⟩
  | .listening, .streamEnded => v.closed ⟨.info, "connection ended", []⟩
  | .listening, .lingerOver =>
    { v.record ⟨.info, "linger elapsed; closing", []⟩ with doing := .leaving }
  | .emitting event, .wrote =>
    { v.record ⟨.info, "event emitted", [("event", event)]⟩ with doing := .listening }
  | .emitting _, .writeFailed e => { v with doing := .done (some e) }
  | .leaving, .wrote | .leaving, .writeFailed _ => { v with doing := .done none }
  | _, _ => v

def result? (v : Visit) : Option (Except GatewayError Report) :=
  match v.doing with
  | .done none => some (.ok v.report)
  | .done (some e) => some (.error (.websocket e))
  | _ => none

end Visit

end SocketGateway.Probe
