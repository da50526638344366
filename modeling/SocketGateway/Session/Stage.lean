import SocketGateway.Handler
import SocketGateway.Http.Error
import SocketGateway.Router
import SocketGateway.Session.Drive

/-!
# The stages of a session

A session is the task of one accepted stream. It upgrades the stream, registers the connection and
greets the client; then the connection is open until it ends. On the way out there are several
doors: the upgrade fails, the path is not served, the registry is full, the greeting cannot be
written.
-/

namespace SocketGateway

open SocketGateway.Http (UpgradeError)
open SocketGateway.Wire (CloseCode Frame)

/-- How a session ended: it returned, a handler broke down, or it was aborted. -/
inductive Outcome where
  | returned (r : Except GatewayError Unit)
  | panicked
  | aborted

inductive Stage where
  | handshaking
  | rejecting (path : String)
  | granting (ns : Namespace) (handlers : HandlerSet)
  | refusing (limit : Nat) (frames : List Frame)
  | greeting (c : Connection) (handlers : HandlerSet)
  | open (c : Connection) (handlers : HandlerSet) (d : Drive)
  | ended (o : Outcome)

inductive Cue where
  | upgradeFailed (e : UpgradeError)
  | requested (path : String)
  | wrote
  | writeFailed (e : UpgradeError)
  | inbound (f : Frame)
  | readFailed
  | streamEnded
  | outbound
  | tick
deriving DecidableEq, Repr

/-- What a session has to write: the answer to the upgrade, or a frame. -/
inductive Writing where
  | grant
  | refusal (path : String)
  | frame (f : Frame)
deriving DecidableEq, Repr

structure Session where
  peer : Net.SocketAddress
  stage : Stage

namespace Stage

def isLive : Stage → Bool
  | .ended _ => false
  | _ => true

/-- The connection that is registered, or was. -/
def connection? : Stage → Option Connection
  | .greeting c _ | .open c _ _ => some c
  | _ => none

/-! ## Frames of its own -/

def helloFrame (h : Config.Heartbeat) (c : Connection) : Frame :=
  .text (ServerMessage.connected c.id c.ns.text h.interval h.timeout).encode

def refusalFrames (limit : Nat) : List Frame :=
  [Drive.errorFrame (GatewayError.capacityReached limit).message,
    .closing CloseCode.tryAgain "connection limit reached"]

def pending? (h : Config.Heartbeat) : Stage → Option Writing
  | .rejecting path => some (.refusal path)
  | .granting .. => some .grant
  | .refusing _ (f :: _) => some (.frame f)
  | .greeting c _ => some (.frame (helloFrame h c))
  | .open _ _ ⟨_, _, .writing f _⟩ => some (.frame f)
  | _ => none

end Stage

end SocketGateway
