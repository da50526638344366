/-!
# What breaks a connection

The ways in which what arrives is not a sequence of frames that the peer may send, and the texts.
-/

namespace SocketGateway.Wire

inductive Fault where
  | vanished
  | unknownKind (opcode : UInt8)
  | tooLong (size limit : Nat)
  | unmasked
  | masked
  | reservedBits
  | cutControl
  | bigControl
  | nothingToContinue
  | pieceExpected
  | badClose
  | badText
deriving DecidableEq, Repr

def Fault.message : Fault → String
  | .vanished => "WebSocket protocol error: Connection reset without closing handshake"
  | .unknownKind n => "WebSocket protocol error: Encountered invalid opcode: " ++ toString n
  | .tooLong size limit =>
    "Space limit exceeded: Message too long: " ++ toString size ++ " > " ++ toString limit
  | .unmasked => "WebSocket protocol error: Received an unmasked frame from client"
  | .masked => "WebSocket protocol error: Received a masked frame from server"
  | .reservedBits => "WebSocket protocol error: Reserved bits are non-zero"
  | .cutControl => "WebSocket protocol error: Fragmented control frame"
  | .bigControl =>
    "WebSocket protocol error: Control frame too big (payload must be 125 bytes or less)"
  | .nothingToContinue =>
    "WebSocket protocol error: Continue frame but nothing to continue"
  | .pieceExpected => "WebSocket protocol error: While waiting for more fragments received"
  | .badClose => "WebSocket protocol error: Invalid close sequence"
  | .badText => "UTF-8 encoding error: invalid utf-8 sequence"

end SocketGateway.Wire
