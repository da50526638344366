import SocketGateway.Error
import SocketGateway.Mailroom
import SocketGateway.Namespace
import SocketGateway.Table

/-!
# The registry of connections

The registry knows every live connection by its id, and refuses more than a limit of them.
Connections leave it one by one, or all at once by a drain, which asks each of them to close.
-/

namespace SocketGateway

open SocketGateway.Wire (CloseCode Frame)

/-! ## Connections -/

/-- A live connection: its id, the namespace it joined, its peer, and its mailbox. -/
structure Connection where
  id : String
  ns : Namespace
  peer : Option Net.SocketAddress
  mailbox : MailboxId
deriving DecidableEq, Repr

/-- Asks a connection to close, and says whether anybody is there to hear it. -/
def Connection.close (c : Connection) (m : Mailroom) (code : CloseCode) (reason : String) :
    Bool × Mailroom :=
  m.post c.mailbox (.closing code reason)

/-! ## The registry -/

/-- The live connections by id, and how many there may be. -/
structure Registry where
  connections : Table String Connection
  limit : Nat
deriving Repr

namespace Registry

/-- The largest limit, which counts as none. -/
def unlimited : Nat := UInt64.size - 1

def withLimit (limit : Nat) : Registry := ⟨Table.empty, limit⟩

def size (r : Registry) : Nat := r.connections.size

def isEmpty (r : Registry) : Bool := r.size == 0

/-- Adds a connection; one of the same id is replaced. Refused once the limit is reached. -/
def register (r : Registry) (c : Connection) : Except GatewayError Registry :=
  if r.limit ≤ r.size then .error (.capacityReached r.limit)
  else .ok { r with connections := r.connections.insert c.id c }

/-- Removes the connection of an id and gives it, if there is one. -/
def remove (r : Registry) (id : String) : Option Connection × Registry :=
  (r.connections.find? id, { r with connections := r.connections.erase id })

def get? (r : Registry) (id : String) : Option Connection := r.connections.find? id

def contains (r : Registry) (id : String) : Bool := r.connections.contains id

def ids (r : Registry) : List String := r.connections.keys

def inNamespace (r : Registry) (ns : Namespace) : List String :=
  (r.connections.values.filter fun c => c.ns = ns).map (·.id)

def countOne (counts : Table Namespace Nat) (ns : Namespace) : Table Namespace Nat :=
  counts.insert ns ((counts.find? ns).getD 0 + 1)

def countByNamespace (r : Registry) : Table Namespace Nat :=
  r.connections.values.foldl (fun counts c => countOne counts c.ns) Table.empty

/-- Asks every one of the connections to close; who has gone already is passed over. -/
def closeAll (code : CloseCode) (reason : String) (cs : List Connection) (m : Mailroom) :
    Mailroom :=
  cs.foldl (fun m c => (c.close m code reason).2) m

/-- Removes every connection and asks it to close; gives how many there were. -/
def drain (r : Registry) (m : Mailroom) (code : CloseCode) (reason : String) :
    Nat × Registry × Mailroom :=
  (r.size, { r with connections := Table.empty }, closeAll code reason r.connections.values m)

end Registry

end SocketGateway
