import SocketGateway.Http.Upgrade
import SocketGateway.Wire.Receiver

/-!
# Links

A link is a stream in memory between a client and the gateway. Bytes wait in it until the other
side takes them. Either side can go away; what it wrote before can still be read.
-/

namespace SocketGateway.Loopback

open SocketGateway.Http (Intake Offer)
open SocketGateway.Wire (Frame Receiver)

/-! ## The type -/

/-- A link: the session that serves it once it was accepted, the bytes on their way in both
directions, who has stopped writing or gone, and what the gateway's side has read so far. A link
to somebody else's listener is never served. -/
structure Link where
  session : Option Nat
  elsewhere : Bool
  toGateway : List UInt8
  clientFinished : Bool
  clientGone : Bool
  toClient : List UInt8
  gatewayGone : Bool
  intake : Intake
  offer : Option Offer
  receiver : Receiver

namespace Link

def fresh (elsewhere : Bool) : Link :=
  ⟨none, elsewhere, [], false, false, [], false, .fresh, none, .fresh .gateway⟩

/-! ## The client's side -/

def send (l : Link) (bytes : List UInt8) : Link :=
  if l.gatewayGone || l.clientFinished then l else { l with toGateway := l.toGateway ++ bytes }

def finish (l : Link) : Link := { l with clientFinished := true }

def drop (l : Link) : Link := { l with clientFinished := true, clientGone := true, toClient := [] }

/-- Takes frames from the front of what arrived, with fuel for as many, until one is not passed
over: pings are passed over unless they are wanted. -/
def firstFrame (pings : Bool) : Nat → List UInt8 → Option (Frame × List UInt8)
  | 0, _ => none
  | fuel + 1, bytes =>
    match Frame.take? bytes with
    | none => none
    | some (.ping payload, rest) =>
      if pings then some (.ping payload, rest) else firstFrame pings fuel rest
    | some found => some found

def nextFrame (l : Link) (pings : Bool) : Option (Frame × List UInt8) :=
  firstFrame pings (l.toClient.length + 1) l.toClient

/-! ## The gateway's side -/

/-- The gateway writes bytes; they are lost if the client has gone. -/
def reply (l : Link) (bytes : List UInt8) : Link :=
  if l.clientGone then l else { l with toClient := l.toClient ++ bytes }

inductive Finding where
  | nothing
  | verdict (r : Except Http.UpgradeError Offer)
  | message (f : Frame)
  | failure

/-- Reads a packet of the request; gives what the request says now. -/
def readRequest (l : Link) : Option (Link × Finding) :=
  match l.toGateway with
  | [] => if l.clientFinished then some (l, .verdict (.error .unfinished)) else none
  | bytes =>
    let intake := l.intake.add (bytes.take Intake.packetSize)
    let l := { l with toGateway := bytes.drop Intake.packetSize, intake := intake }
    match intake.verdict with
    | none => some (l, .nothing)
    | some (.ok offer) => some ({ l with offer := some offer }, .verdict (.ok offer))
    | some (.error e) => some (l, .verdict (.error e))

/-- Reads a message. A ping is answered at once. -/
def readMessage (l : Link) : Option (Link × Finding) :=
  match (l.receiver.feed l.toGateway).next with
  | (.nothing, _) => if l.clientFinished then some (l, .failure) else none
  | (.fault _, _) => some (l, .failure)
  | (.message f, r) =>
    let l := { l with toGateway := [], receiver := r }
    match f with
    | .ping payload => some (l.reply (Frame.pong payload |>.encode none), .message f)
    | f => some (l, .message f)

def grant (l : Link) : List UInt8 :=
  match l.offer with
  | some offer => Text.Utf8.encode (Http.grantText offer.key)
  | none => []

end Link

end SocketGateway.Loopback
