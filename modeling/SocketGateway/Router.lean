import SocketGateway.Namespace
import SocketGateway.Table

/-!
# The router

The router maps namespaces to handler sets. Any path can be registered or resolved; what counts is
the namespace that it names.
-/

namespace SocketGateway

/-- Handler sets by namespace. -/
structure Router (η : Type) where
  routes : Table Namespace η

namespace Router

variable {η : Type}

def empty : Router η := ⟨Table.empty⟩

def register (r : Router η) (path : String) (handlers : η) : Router η :=
  ⟨r.routes.insert (Namespace.parse path) handlers⟩

def shared (paths : List String) (handlers : η) : Router η :=
  paths.foldl (fun r path => r.register path handlers) empty

/-- The namespace of a path and its handlers, if it is served. -/
def resolve (r : Router η) (path : String) : Option (Namespace × η) :=
  let ns := Namespace.parse path
  (r.routes.find? ns).map fun handlers => (ns, handlers)

def namespaces (r : Router η) : List Namespace := Namespace.sort r.routes.keys

def size (r : Router η) : Nat := r.routes.size

end Router

end SocketGateway
