/-!
# Why a connection ended
-/

namespace SocketGateway

/-- Why a connection ended: the peer closed or vanished, the peer asked to leave, the gateway closed
it, nothing was heard for too long, or reading or writing failed. -/
inductive DisconnectReason where
  | clientClosed
  | clientDisconnect
  | serverClosed
  | pingTimeout
  | transportError
deriving DecidableEq, Repr

def DisconnectReason.text : DisconnectReason → String
  | .clientClosed => "client closed"
  | .clientDisconnect => "client disconnect"
  | .serverClosed => "server closed"
  | .pingTimeout => "ping timeout"
  | .transportError => "transport error"

end SocketGateway
