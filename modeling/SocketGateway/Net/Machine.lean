import SocketGateway.Error

/-!
# The addresses of a machine

Which host a name stands for, at which addresses a machine can listen, and which of them somebody
listens at already. A port of zero asks for any free one.
-/

namespace SocketGateway.Net

def Host.resolve? (name : String) : Option Host :=
  if name = "localhost" then some .loopback else Host.parse? name

def Host.isLocal : Host → Bool
  | .v4 (first :: _) => first == 127 || first == 0
  | .v4 [] => false
  | .v6 groups => groups.dropLast.all (· == 0) && groups.getLast?.all (· ≤ 1)

def Host.isAny (h : Host) : Bool := h == .any || h == .v6 (List.replicate 8 0)

/-- Whether listening at one address keeps others from listening at another one. -/
def SocketAddress.excludes (a b : SocketAddress) : Bool :=
  a.port == b.port && (a.host == b.host || a.host.isAny || b.host.isAny)

/-- A machine: the addresses that others listen at, and the next port that is free. -/
structure Machine where
  taken : List SocketAddress
  nextPort : UInt16
deriving DecidableEq, Repr

namespace Machine

def fresh : Machine := ⟨[], 40000⟩

def usePort (m : Machine) : Machine := { m with nextPort := m.nextPort + 1 }

def isFree (m : Machine) (a : SocketAddress) : Bool := !m.taken.any (·.excludes a)

def occupy (m : Machine) (a : SocketAddress) : Machine := { m with taken := [a] }

def occupyFresh (m : Machine) : UInt16 × Machine :=
  (m.nextPort, m.usePort.occupy ⟨.loopback, 0, m.nextPort⟩)

def release (m : Machine) : Machine := { m with taken := [] }

/-- Binds a name and a port: gives the address that is listened at, or why that is not possible. -/
def bind (m : Machine) (name : String) (port : UInt16) :
    Except GatewayError SocketAddress × Machine :=
  match Host.resolve? name with
  | none => (.error (.invalidAddress (name ++ ":" ++ toString port.toNat)), m)
  | some host =>
    let address : SocketAddress := ⟨host, 0, port⟩
    if !host.isLocal then (.error (.bind address .notAvailable), m)
    else if port = 0 then (.ok ⟨host, 0, m.nextPort⟩, m.usePort)
    else if m.isFree address then (.ok address, m)
    else (.error (.bind address .inUse), m)

end Machine

end SocketGateway.Net
