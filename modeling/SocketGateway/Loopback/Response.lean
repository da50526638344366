import SocketGateway.Loopback.Link
import SocketGateway.Text.Blank
import SocketGateway.Text.Split

/-!
# What a client reads

A client without a library of its own takes apart what arrives on its link: the answer to its
request, and after that frame by frame. As long as something is still to come there is nothing to
read; when the gateway has gone, what is not whole is lost.
-/

namespace SocketGateway.Loopback

open SocketGateway.Wire (Frame)

/-! ## Types -/

inductive Reading where
  | frame (f : Frame)
  | closed
  | timeout

inductive Behind where
  | first (r : Reading)
  | body (text : String)

/-- The answer to a request: its first line, its headers as they were sent, and what follows. -/
structure Response where
  status : String
  headers : List String
  behind : Behind

namespace Link

/-! ## Heads -/

/-- Divides bytes at the empty line that ends a head; `done` holds those before, latest first. -/
def splitHead (done : List UInt8) : List UInt8 → Option (List UInt8 × List UInt8)
  | 13 :: 10 :: 13 :: 10 :: rest => some (done.reverse, rest)
  | b :: rest => splitHead (b :: done) rest
  | [] => none

def headLines (bytes : List UInt8) : List String :=
  (Text.splitAt '\n' (Text.Utf8.decodeLossy bytes).toList).map fun cs =>
    String.ofList (Text.stripEnd (· = '\r') cs)

/-- Whether the first line of an answer confirms an upgrade. -/
def confirms (status : String) : Bool := "HTTP/1.1 101".toList.isPrefixOf status.toList

/-! ## Reading -/

/-- The answer that a client can read whole, if there is one yet; an answer of which the head is
not whole when the gateway has gone is none. -/
def response? (l : Link) : Option (Option Response × Link) :=
  match splitHead [] l.toClient with
  | none => if l.gatewayGone then some (none, { l with toClient := [] }) else none
  | some (head, rest) =>
    match headLines head with
    | [] => none
    | status :: headers =>
      let l := { l with toClient := rest }
      if confirms status then
        match l.nextFrame false with
        | some (f, rest) =>
          some (some ⟨status, headers, .first (.frame f)⟩, { l with toClient := rest })
        | none =>
          if l.gatewayGone then some (some ⟨status, headers, .first .closed⟩, l) else none
      else if l.gatewayGone then
        some (some ⟨status, headers, .body (Text.Utf8.decodeLossy rest)⟩, { l with toClient := [] })
      else none

def reading? (pings : Bool) (l : Link) : Option (Reading × Link) :=
  match l.nextFrame pings with
  | some (f, rest) => some (.frame f, { l with toClient := rest })
  | none => if l.gatewayGone then some (.closed, l) else none

end Link

end SocketGateway.Loopback
