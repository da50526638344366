import SocketGateway.Config.Settings
import SocketGateway.DisconnectReason
import SocketGateway.Message.Client
import SocketGateway.Message.Server
import SocketGateway.Wire.Frame

/-!
# An open connection

While a connection is open its task waits for whatever comes first: a frame of the client, a frame
from its mailbox, or a tick of the clock. It deals with one thing at a time. What it has to write
is written before it waits again, and the first thing that ends the connection fixes the reason.
-/

namespace SocketGateway

open SocketGateway.Config (Heartbeat)
open SocketGateway.Json (Value)
open SocketGateway.Wire (CloseCode Frame)

/-! ## The type -/

inductive Occasion where
  | inbound (f : Frame)
  | readFailed
  | streamEnded
  | outbound (f : Frame)
  | tick
deriving DecidableEq, Repr

/-- What comes after a frame has been written: waiting again, or the end for a reason. -/
inductive After where
  | resume
  | finish (reason : DisconnectReason)
deriving DecidableEq, Repr

inductive Mode where
  | waiting
  | writing (f : Frame) (next : After)
  | over (reason : DisconnectReason)
deriving DecidableEq, Repr

/-- An open connection: when the client was last heard, when the next tick is due, and what its
task does. -/
structure Drive where
  lastSeen : Nat
  nextTick : Nat
  mode : Mode
deriving DecidableEq, Repr

abbrev ClientEvent := String × List Value

namespace Drive

def start (h : Heartbeat) (now : Nat) : Drive := ⟨now, now + h.interval.toNat, .waiting⟩

/-! ## Frames of its own -/

def errorFrame (text : String) : Frame := .text (ServerMessage.error text).encode

def invalidFrame (e : Json.ReadError) : Frame := errorFrame ("invalid message: " ++ e.message)

def binaryFrame : Frame := errorFrame "binary frames are not supported"

/-- The last frame to a client that was silent for too long. -/
def timeoutFrame : Frame := .closing CloseCode.policy "ping timeout"

/-! ## Steps -/

def write (d : Drive) (f : Frame) (next : After) : Drive := { d with mode := .writing f next }

def stop (d : Drive) (reason : DisconnectReason) : Drive := { d with mode := .over reason }

/-- What a frame of the client leads to: an event for the handlers, an answer, or the end. -/
def hear (d : Drive) : Frame → Drive × Option ClientEvent
  | .text s =>
    match ClientMessage.decode s with
    | .ok (.event name args) => (d, some (name, args))
    | .ok .disconnect => (d.write (.close none) (.finish .clientDisconnect), none)
    | .error e => (d.write (invalidFrame e) .resume, none)
  | .binary _ => (d.write binaryFrame .resume, none)
  | .close _ => (d.stop .clientClosed, none)
  | .ping _ | .pong _ | .raw _ _ => (d, none)

def isOverdue (h : Heartbeat) (now : Nat) (d : Drive) : Bool := h.deadline < now - d.lastSeen

/-- Deals with what woke up a waiting task, at a time. -/
def wake (h : Heartbeat) (now : Nat) (d : Drive) : Occasion → Drive × Option ClientEvent
  | .inbound f => { d with lastSeen := now }.hear f
  | .readFailed => (d.stop .transportError, none)
  | .streamEnded => (d.stop .clientClosed, none)
  | .outbound (.close notice) => (d.write (.close notice) (.finish .serverClosed), none)
  | .outbound f => (d.write f .resume, none)
  | .tick =>
    let d := { d with nextTick := now + h.interval.toNat }
    if d.isOverdue h now then (d.write timeoutFrame (.finish .pingTimeout), none)
    else (d.write (.ping []) .resume, none)

/-- Goes on after a frame was written, or could not be. -/
def written (ok : Bool) (d : Drive) : Drive :=
  match d.mode with
  | .writing _ .resume => if ok then { d with mode := .waiting } else d.stop .transportError
  | .writing _ (.finish reason) => d.stop reason
  | _ => d

end Drive

end SocketGateway
