import SocketGateway.Http.Upgrade
import SocketGateway.Namespace
import SocketGateway.Net.Address

/-!
# Where a probe goes

A probe joins one namespace of a gateway. Its address is that of the gateway with the namespace
behind it; from the address follow the host and port to connect to and the request.
-/

namespace SocketGateway.Probe

open SocketGateway.Http (Target UpgradeError)

/-- What a probe is told: the address of the gateway, the namespace to join, the event to send when
it was greeted, and how many milliseconds to stay. -/
structure Options where
  url : String
  ns : String
  emit : Option String
  linger : Nat
deriving DecidableEq, Repr

namespace Options

def address (o : Options) : String :=
  String.ofList (Text.stripEnd (· = '/') o.url.toList) ++ (Namespace.parse o.ns).text

end Options

structure Plan where
  host : String
  port : UInt16
  target : Target
deriving DecidableEq, Repr

namespace Plan

def key : String := "dGhlIHNhbXBsZSBub25jZQ=="

/-- The host in an authority without the name of a user: what is in brackets, or stands before the
colon. -/
def hostOf (cs : List Char) : List Char :=
  match cs with
  | '[' :: rest => '[' :: rest.takeWhile (· ≠ ']') ++ [']']
  | _ => cs.takeWhile (· ≠ ':')

def portOf? (cs : List Char) : Option UInt16 := Net.readPort (cs.drop (hostOf cs).length)

def defaultPort? : Option String → Option UInt16
  | some "ws" => some 80
  | some "wss" => some 443
  | _ => none

def ofAddress (s : String) : Except UpgradeError Plan := do
  let target ← (Target.parse s).mapError .target
  if target.authority.isEmpty then .error .noHost
  let cs := target.hostAndPort.toList
  match (portOf? cs).orElse fun _ => defaultPort? target.scheme with
  | none => .error .noScheme
  | some port => .ok ⟨String.ofList (hostOf cs), port, target⟩

/-- Whether the stream that is there can be upgraded: only without encryption. -/
def checkScheme (p : Plan) : Except UpgradeError Unit :=
  match p.target.scheme with
  | some "ws" => .ok ()
  | some "wss" => .error .noTls
  | _ => .error .noScheme

def request (p : Plan) : List UInt8 := Text.Utf8.encode (Http.requestText p.target key)

end Plan

end SocketGateway.Probe
