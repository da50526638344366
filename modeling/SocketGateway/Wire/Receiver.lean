import SocketGateway.Wire.Encoding
import SocketGateway.Wire.Fault

/-!
# Receiving messages

A receiver takes messages out of the bytes that arrive. It puts the pieces of a message together,
between which control frames may stand, and refuses what its peer may not send. A text is refused
at the first piece that shows that it is no UTF-8.
-/

namespace SocketGateway.Wire

/-! ## The type -/

/-- Which end of a connection one is: a gateway must get masked frames, a client must not. -/
inductive Role where
  | gateway
  | client
deriving DecidableEq, Repr

/-- A message of which pieces are still to come: whether it is a text, and its bytes so far. -/
structure Assembly where
  isText : Bool
  bytes : List UInt8
deriving Repr

/-- A receiver: what arrived and is not used yet, and the message under way. -/
structure Receiver where
  role : Role
  buffer : List UInt8
  assembly : Option Assembly
deriving Repr

inductive Arrival where
  | nothing
  | message (f : Frame)
  | fault (w : Fault)
deriving DecidableEq, Repr

namespace Receiver

def fresh (role : Role) : Receiver := ⟨role, [], none⟩

def feed (r : Receiver) (bytes : List UInt8) : Receiver := { r with buffer := r.buffer ++ bytes }

/-! ## Limits -/

def frameLimit : Nat := 16 * 1024 * 1024

def messageLimit : Nat := 64 * 1024 * 1024

def known : List UInt8 := [0, 1, 2, 8, 9, 10]

/-- A code that an endpoint must not put into a close frame. -/
def isForbidden (c : CloseCode) : Bool :=
  let n := c.toNat
  n < 1000 || [1004, 1005, 1006, 1014, 1015].contains n || (1016 ≤ n && n < 3000) || 5000 ≤ n

/-- What a close frame is taken to say: a forbidden code is a breach of the rules. -/
def admissible : Option CloseNotice → Option CloseNotice
  | none => none
  | some n => if isForbidden n.code then some ⟨1002, "Protocol violation"⟩ else some n

/-! ## Frames -/

/-- A frame as it arrived, unmasked. -/
structure RawFrame where
  header : Header
  payload : List UInt8

/-- Takes a frame out of the buffer: `none` if it is not there as a whole. Kind and length are
looked at as soon as the header is there. -/
def takeFrame (r : Receiver) : Option (Except Fault (RawFrame × List UInt8)) :=
  match Header.read? r.buffer with
  | none => none
  | some (h, rest) =>
    if !known.contains h.opcode then some (.error (.unknownKind h.opcode))
    else if frameLimit < h.length then some (.error (.tooLong h.length frameLimit))
    else
      match Header.take? h.length rest with
      | none => none
      | some (payload, rest) =>
        match r.role, h.mask with
        | .gateway, none => some (.error .unmasked)
        | .gateway, some m => some (.ok (⟨h, m.mix payload⟩, rest))
        | .client, _ => some (.ok (⟨h, payload⟩, rest))

def control (f : RawFrame) : Arrival :=
  if !f.header.isFinal then .fault .cutControl
  else if 125 < f.payload.length then .fault .bigControl
  else if f.header.opcode == 8 then
    match f.payload with
    | [_] => .fault .badClose
    | _ =>
      match Frame.closeOf? f.payload with
      | some notice => .message (.close (admissible notice))
      | none => .fault .badText
  else if f.header.opcode == 9 then .message (.ping f.payload)
  else .message (.pong f.payload)

/-- Adds a piece to a message: the message so far, or a whole message. -/
def addPiece (a : Assembly) (piece : List UInt8) (isFinal : Bool) : Except Fault (Assembly ⊕ Frame) :=
  let bytes := a.bytes ++ piece
  if messageLimit < bytes.length then .error (.tooLong bytes.length messageLimit)
  else if a.isText then
    match Text.Utf8.ending bytes, isFinal with
    | .broken, _ | .cut, true => .error .badText
    | .complete, true =>
      match Text.Utf8.decode? bytes with
      | some s => .ok (.inr (.text s))
      | none => .error .badText
    | _, false => .ok (.inl ⟨true, bytes⟩)
  else if isFinal then .ok (.inr (.binary bytes))
  else .ok (.inl ⟨false, bytes⟩)

def assemblyFor (r : Receiver) (f : RawFrame) : Except Fault Assembly :=
  match f.header.opcode == 0, r.assembly with
  | true, some a => .ok a
  | true, none => .error .nothingToContinue
  | false, some _ => .error .pieceExpected
  | false, none => .ok ⟨f.header.opcode == 1, []⟩

/-! ## Messages -/

/-- Takes the next message, with as many frames as `fuel` allows. -/
def nextWith : Nat → Receiver → Arrival × Receiver
  | 0, r => (.nothing, r)
  | fuel + 1, r =>
    match r.takeFrame with
    | none => (.nothing, r)
    | some (.error w) => (.fault w, r)
    | some (.ok (f, rest)) =>
      let r := { r with buffer := rest }
      if f.header.hasReserved then (.fault .reservedBits, r)
      else if r.role = .client ∧ f.header.mask.isSome then (.fault .masked, r)
      else if 8 ≤ f.header.opcode then (control f, r)
      else
        match r.assemblyFor f with
        | .error w => (.fault w, r)
        | .ok a =>
          match addPiece a f.payload f.header.isFinal with
          | .error w => (.fault w, r)
          | .ok (.inl a) => nextWith fuel { r with assembly := some a }
          | .ok (.inr message) => (.message message, { r with assembly := none })

/-- Takes the next message. Every frame has two bytes at least, so there are fewer frames than
bytes. -/
def next (r : Receiver) : Arrival × Receiver := nextWith (r.buffer.length + 1) r

example :
    (((fresh .gateway).feed [0x01, 0x81, 0, 0, 0, 0, 0x68, 0x89, 0x80, 1, 2, 3, 4, 0x80, 0x81]).next.1
      = .message (.ping [])) ∧
    (((fresh .gateway).feed [0x01, 0x81, 0, 0, 0, 0, 0x68, 0x80, 0x81, 1, 0, 0, 0, 0x68]).next.1
      = .message (.text "hi")) := by decide

end Receiver

end SocketGateway.Wire
