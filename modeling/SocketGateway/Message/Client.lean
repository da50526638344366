import SocketGateway.Message.Shape
import SocketGateway.Json.Printer

/-!
# Messages of clients

A client sends events, each a name with arguments, or leaves.
-/

namespace SocketGateway

open SocketGateway.Json SocketGateway.Message

inductive ClientMessage where
  | event (name : String) (args : List Value)
  | disconnect

namespace ClientMessage

def eventShape : Shape :=
  ⟨"ClientMessage::Event",
    [⟨"event", .text, none⟩, ⟨"args", .list, some (.list [])⟩]⟩

def disconnectShape : Shape := ⟨"ClientMessage::Disconnect", []⟩

def build (kind : String) (body : Body) : Except Mismatch ClientMessage :=
  if kind = "event" then
    match eventShape.read body with
    | .ok [.text name, .list args] => .ok (.event name args)
    | .ok _ => .error (.missingField "event")
    | .error m => .error m
  else
    match disconnectShape.read body with
    | .ok _ => .ok .disconnect
    | .error m => .error m

def decode (text : String) : Except ReadError ClientMessage :=
  decodeWith "ClientMessage" ["event", "disconnect"] build text

def toValue : ClientMessage → Value
  | .event name args =>
    .object [("type", .string "event"), ("event", .string name), ("args", .array args)]
  | .disconnect => .object [("type", .string "disconnect")]

def encode (m : ClientMessage) : String := m.toValue.render

end ClientMessage

end SocketGateway
