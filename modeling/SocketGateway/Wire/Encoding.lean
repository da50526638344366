import SocketGateway.Text.Utf8
import SocketGateway.Wire.Header

/-!
# Frames as bytes

How a frame is written, and what a frame that arrived says. A client masks what it writes, a
gateway does not.
-/

namespace SocketGateway.Wire

namespace Frame

def first : Frame → UInt8
  | .text _ => 0x81
  | .binary _ => 0x82
  | .close _ => 0x88
  | .ping _ => 0x89
  | .pong _ => 0x8A
  | .raw head _ => head

/-- The payload of a frame: a close frame starts with the two bytes of its code. -/
def payload : Frame → List UInt8
  | .text s => Text.Utf8.encode s
  | .binary bytes | .ping bytes | .pong bytes | .raw _ bytes => bytes
  | .close none => []
  | .close (some n) => Header.bytesOf 2 n.code.toNat ++ Text.Utf8.encode n.reason

def encode (mask : Option Mask) (f : Frame) : List UInt8 :=
  let payload := f.payload
  Header.encode ⟨f.first, mask, payload.length⟩ ++
    (match mask with
      | some m => m.mix payload
      | none => payload)

/-- What the payload of a close frame says: nothing, or a code and a text. `none` if it is
neither. -/
def closeOf? : List UInt8 → Option (Option CloseNotice)
  | [] => some none
  | [_] => none
  | hi :: lo :: reason =>
    (Text.Utf8.decode? reason).map fun s => some ⟨(Header.number [hi, lo]).toUInt16, s⟩

def ofParts (first : UInt8) (payload : List UInt8) : Frame :=
  match first with
  | 0x81 =>
    match Text.Utf8.decode? payload with
    | some s => .text s
    | none => .raw first payload
  | 0x82 => .binary payload
  | 0x88 =>
    match closeOf? payload with
    | some notice => .close notice
    | none => .raw first payload
  | 0x89 => .ping payload
  | 0x8A => .pong payload
  | _ => .raw first payload

/-- Takes the frame at the front of what arrived, if it is there as a whole. -/
def take? (bytes : List UInt8) : Option (Frame × List UInt8) := do
  let (header, rest) ← Header.read? bytes
  let (payload, rest) ← Header.take? header.length rest
  let payload := match header.mask with
    | some m => m.mix payload
    | none => payload
  some (ofParts header.first payload, rest)

example : take? (encode (some ⟨55, 250, 33, 61⟩) (closing 1000 "é") ++ [7]) =
    some (closing 1000 "é", [7]) := by decide +kernel

end Frame

end SocketGateway.Wire
