import SocketGateway.Loopback.Response
import SocketGateway.Net.Machine
import SocketGateway.Probe.Client

/-!
# Rehearsals

In a rehearsal a probe meets not a gateway but a host that plays its part from a list: it takes the
request, answers it, and then writes and reads as the list says. What it saw is noted. A host that
waits for a frame waits until the probe's time is over, if need be.
-/

namespace SocketGateway.Loopback

open SocketGateway.Net (Host SocketAddress)
open SocketGateway.Probe (Client Options Plan Report)
open SocketGateway.Wire (Frame)

inductive Act where
  | send (bytes : List UInt8)
  | expect
deriving DecidableEq, Repr

/-- What the host saw: the first line of a request, a frame, or that the probe had gone. -/
inductive Sight where
  | request (line : String)
  | frame (f : Frame)
  | gone
deriving DecidableEq, Repr

/-- A rehearsal: the probe, what it sent and the host did not read yet, and what the host saw,
latest first. -/
structure Rehearsal where
  probe : Client
  unread : List UInt8
  seen : List Sight

namespace Rehearsal

def collect (r : Rehearsal) (c : Client) : Rehearsal :=
  { r with probe := { c with output := [] }, unread := r.unread ++ c.output }

def send (r : Rehearsal) (bytes : List UInt8) : Rehearsal := r.collect (r.probe.receive bytes false)

def leave (r : Rehearsal) : Rehearsal := r.collect (r.probe.receive [] true)

def expect (r : Rehearsal) : Sight × Rehearsal :=
  match Frame.take? r.unread with
  | some (f, rest) => (.frame f, { r with unread := rest })
  | none =>
    let r := r.collect r.probe.lingerOver
    match Frame.take? r.unread with
    | some (f, rest) => (.frame f, { r with unread := rest })
    | none => (.gone, r)

def note (r : Rehearsal) (s : Sight) : Rehearsal := { r with seen := s :: r.seen }

def act (r : Rehearsal) : Act → Rehearsal
  | .send bytes => r.send bytes
  | .expect => let (s, r) := r.expect; r.note s

/-- The host reads until the probe has gone; there are at most `fuel` frames. -/
def hold : Nat → Rehearsal → Rehearsal
  | 0, r => r
  | fuel + 1, r =>
    match r.expect with
    | (.gone, r) => r
    | (s, r) => hold fuel (r.note s)

def takeRequest (r : Rehearsal) : Rehearsal :=
  match Link.splitHead [] r.unread with
  | some (head, rest) =>
    { r with unread := rest }.note (.request ((Link.headLines head).headD ""))
  | none => r

def leadsTo (p : Plan) (a : SocketAddress) : Bool :=
  (Host.resolve? p.host).any fun host => a.excludes ⟨host, 0, p.port⟩

/-- A whole rehearsal with a host at an address that answers with `answer`, if there is a host: what
the probe gives back, if it does, and what the host saw. -/
def run (o : Options) (host : Option SocketAddress) (answer : List UInt8) (acts : List Act) (held : Bool) :
    Option (Except GatewayError Report) × List Sight :=
  match Plan.ofAddress o.address with
  | .error e => (some (.error (.websocket e)), [])
  | .ok p =>
    if !host.any (leadsTo p) then (some (.error (.websocket (.io .refused))), [])
    else
      match p.checkScheme with
      | .error e => (some (.error (.websocket e)), [])
      | .ok _ =>
        let c := Client.start o p
        let r : Rehearsal := ⟨{ c with output := [] }, c.output, []⟩
        let r := acts.foldl act (r.takeRequest.send answer)
        let r := (if held then hold (r.unread.length + 8) r else r).leave
        (r.probe.result?, r.seen.reverse)

end Rehearsal

end SocketGateway.Loopback
