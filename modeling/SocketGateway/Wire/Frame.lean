import SocketGateway.Wire.CloseCode

/-!
# Frames

What the two ends of a connection exchange after the upgrade, free of its encoding.
-/

namespace SocketGateway.Wire

structure CloseNotice where
  code : CloseCode
  reason : String
deriving DecidableEq, Repr

/-- A frame. `raw` is one of no known kind: its first byte and its payload. -/
inductive Frame where
  | text (s : String)
  | binary (bytes : List UInt8)
  | ping (bytes : List UInt8)
  | pong (bytes : List UInt8)
  | close (notice : Option CloseNotice)
  | raw (head : UInt8) (bytes : List UInt8)
deriving DecidableEq, Repr

namespace Frame

def closing (code : CloseCode) (reason : String) : Frame := .close (some ⟨code, reason⟩)

def isClose : Frame → Bool
  | .close _ => true
  | _ => false

end Frame

end SocketGateway.Wire
