import SocketGateway.Probe.Visit
import SocketGateway.Wire.Receiver

/-!
# A probe on a stream

A probe asks for the upgrade and then visits. It is given the bytes that arrive and gives the bytes
that it sends; pings are answered before anything else is read.
-/

namespace SocketGateway.Probe

open SocketGateway.Http (AnswerHead UpgradeError)
open SocketGateway.Log (Record)
open SocketGateway.Wire (Frame Mask Receiver)

/-- How far a probe is: it waits for the answer to its request, visits, or has failed before. -/
inductive Progress where
  | upgrading (buffer : List UInt8)
  | visiting (r : Receiver) (v : Visit)
  | failed (e : GatewayError)

/-- A probe: what it was told, how far it is, and the bytes that it sent and nobody took yet. -/
structure Client where
  options : Options
  progress : Progress
  output : List UInt8

namespace Client

def mask : Mask := ⟨0x37, 0xFA, 0x21, 0x3D⟩

def start (o : Options) (p : Plan) : Client := ⟨o, .upgrading [], p.request⟩

def send (c : Client) (f : Frame) : Client := { c with output := c.output ++ f.encode (some mask) }

def withVisit (c : Client) (r : Receiver) (v : Visit) : Client :=
  { c with progress := .visiting r v }

def flush (c : Client) : Client :=
  match c.progress with
  | .visiting r v =>
    match v.pending? with
    | some f => (c.send f).withVisit r (v.step c.options .wrote)
    | none => c
  | _ => c

def upgrade (c : Client) (buffer : List UInt8) (ended : Bool) : Client :=
  match AnswerHead.read buffer with
  | .unfinished =>
    if ended then { c with progress := .failed (.websocket .unfinished) }
    else { c with progress := .upgrading buffer }
  | .fault e => { c with progress := .failed (.websocket e) }
  | .found head rest =>
    match head.check Plan.key with
    | .error e => { c with progress := .failed (.websocket e) }
    | .ok _ =>
      let accept := (Http.header? "sec-websocket-accept" head.headers).map Text.Utf8.decodeLossy
      let v := (Visit.start head.status).record
        (Visit.upgradedRecord c.options.address head.status accept)
      c.withVisit ((Receiver.fresh .client).feed rest) v

/-- Reads messages as long as there are any and the visit goes on; there are at most `fuel`. -/
def read : Nat → Client → Bool → Client
  | 0, c, _ => c
  | fuel + 1, c, ended =>
    match c.progress with
    | .visiting r v =>
      match v.doing with
      | .listening =>
        match r.next with
        | (.message f, r) =>
          let c := match f with
            | .ping bytes => c.send (.pong bytes)
            | _ => c
          read fuel (c.withVisit r (v.step c.options (.inbound f))).flush ended
        | (.fault w, r) => c.withVisit r (v.step c.options (.readFailed w))
        | (.nothing, r) =>
          if ended then c.withVisit r (v.step c.options (.readFailed .vanished)) else c
      | _ => c
    | _ => c

def receive (c : Client) (bytes : List UInt8) (ended : Bool) : Client :=
  let c := match c.progress with
    | .upgrading buffer => c.upgrade (buffer ++ bytes) ended
    | .visiting r v => c.withVisit (r.feed bytes) v
    | .failed _ => c
  match c.progress with
  | .visiting r _ => c.read (r.buffer.length + 2) ended
  | _ => c

def lingerOver (c : Client) : Client :=
  match c.progress with
  | .visiting r v => (c.withVisit r (v.step c.options .lingerOver)).flush
  | _ => c

def isVisiting (c : Client) : Bool :=
  match c.progress with
  | .visiting _ v => v.result?.isNone
  | _ => false

def result? (c : Client) : Option (Except GatewayError Report) :=
  match c.progress with
  | .upgrading _ => none
  | .visiting _ v => v.result?
  | .failed e => some (.error e)

def log (c : Client) : List Record :=
  match c.progress with
  | .visiting _ v => v.log.reverse
  | _ => []

end Client

end SocketGateway.Probe
