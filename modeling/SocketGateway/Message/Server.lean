import SocketGateway.Message.Shape
import SocketGateway.Json.Printer

/-!
# Messages of the gateway

The first message after the upgrade tells a client its id, its namespace and the heartbeat. Then
come events, and errors where a frame of the client could not be used.
-/

namespace SocketGateway

open SocketGateway.Json SocketGateway.Message

inductive ServerMessage where
  | connected (sid ns : String) (pingInterval pingTimeout : UInt64)
  | event (name : String) (args : List Value)
  | error (message : String)

namespace ServerMessage

def connectedShape : Shape :=
  ⟨"ServerMessage::Connected",
    [⟨"sid", .text, none⟩, ⟨"namespace", .text, none⟩, ⟨"ping_interval", .count, none⟩,
      ⟨"ping_timeout", .count, none⟩]⟩

def eventShape : Shape :=
  ⟨"ServerMessage::Event", [⟨"event", .text, none⟩, ⟨"args", .list, none⟩]⟩

def errorShape : Shape := ⟨"ServerMessage::Error", [⟨"message", .text, none⟩]⟩

def build (kind : String) (body : Body) : Except Mismatch ServerMessage :=
  if kind = "connected" then
    match connectedShape.read body with
    | .ok [.text sid, .text ns, .count interval, .count timeout] =>
      .ok (.connected sid ns interval timeout)
    | .ok _ => .error (.missingField "sid")
    | .error m => .error m
  else if kind = "event" then
    match eventShape.read body with
    | .ok [.text name, .list args] => .ok (.event name args)
    | .ok _ => .error (.missingField "event")
    | .error m => .error m
  else
    match errorShape.read body with
    | .ok [.text message] => .ok (.error message)
    | .ok _ => .error (.missingField "message")
    | .error m => .error m

def decode (text : String) : Except ReadError ServerMessage :=
  decodeWith "ServerMessage" ["connected", "event", "error"] build text

def toValue : ServerMessage → Value
  | .connected sid ns interval timeout =>
    .object [("type", .string "connected"), ("sid", .string sid), ("namespace", .string ns),
      ("ping_interval", .int interval.toNat), ("ping_timeout", .int timeout.toNat)]
  | .event name args =>
    .object [("type", .string "event"), ("event", .string name), ("args", .array args)]
  | .error message => .object [("type", .string "error"), ("message", .string message)]

def encode (m : ServerMessage) : String := m.toValue.render

end ServerMessage

end SocketGateway
