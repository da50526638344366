import SocketGateway.Loopback.Probing
import SocketGateway.Loopback.Response
import SocketGateway.Table

/-!
# Steps of a script

What clients and others can be told to do in a world, and what comes of it: every step has a reply.
-/

namespace SocketGateway.Loopback

open SocketGateway.Probe (Options Report)
open SocketGateway.Restart (Phase)
open SocketGateway.Wire (CloseCode)

/-! ## Steps -/

inductive Goal where
  | connections (n : Nat)
  | disconnects (n : Nat)
  | restarts (n : Nat)
  | phase (p : Phase)
deriving DecidableEq, Repr

inductive Step where
  | open (label : String) (request : List UInt8) (wait : Bool)
  | response (label : String)
  | send (label : String) (bytes : List UInt8)
  | recv (label : String) (pings : Bool)
  | finish (label : String)
  | drop (label : String)
  | emit (label event : String) (args : List Json.Value)
  | close (label reason : String)
  | result (label : String)
  | abort (label : String)
  | drain (code : CloseCode) (reason : String)
  | request
  | transition (source target : Phase)
  | await (g : Goal)
  | state
  | probe (o : Options)
  | shutdown
  | finished
  | squat
  | unsquat

/-! ## Replies -/

/-- What a look at the state shows: the labels of the live connections, how many joined each
namespace, what was noted for each label, the phase and the number of restarts. -/
structure Snapshot where
  connections : List String
  byNamespace : List (String × Nat)
  calls : List (String × List String)
  phase : Phase
  completed : UInt64

inductive Reply where
  | nothing
  | refused
  | timeout
  | response (r : Option Response)
  | reading (r : Reading)
  | flag (b : Bool)
  | count (n : Nat)
  | done (r : Except GatewayError Unit)
  | ended (o : Outcome)
  | state (s : Snapshot)
  | report (r : Except GatewayError Report)

end SocketGateway.Loopback
