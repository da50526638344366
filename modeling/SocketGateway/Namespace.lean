import SocketGateway.Text.Blank

/-!
# Namespaces

A namespace is the part of a gateway that a client joins, named by a path such as `/` or
`/admin`. Paths that differ only in outer blanks and slashes name one namespace: blanks are
removed first, then slashes, once each, so a blank that a slash protected stays.
-/

namespace SocketGateway

/-- The name of a namespace: the root `/`, or a slash and a name without outer slashes. -/
structure Namespace where
  text : String
deriving DecidableEq, Repr

namespace Namespace

def root : Namespace := ⟨"/"⟩

/-- What is left of a path when outer blanks and then outer slashes are gone. -/
def core (path : List Char) : List Char :=
  Text.strip (· == '/') (Text.strip Text.isBlank path)

/-- The namespace a path names: `admin`, `/admin` and `/admin/` are all `/admin`, and a path of
which nothing is left is the root. -/
def parse (path : String) : Namespace :=
  match core path.toList with
  | [] => root
  | inner => ⟨String.ofList ('/' :: inner)⟩

def isRoot (n : Namespace) : Bool := n.text == "/"

def bytes (n : Namespace) : List UInt8 := n.text.toUTF8.toList

/-- The order of namespaces: by the bytes of their names. -/
def le (a b : Namespace) : Bool := decide (a.bytes ≤ b.bytes)

def sort (ns : List Namespace) : List Namespace := ns.mergeSort le

end Namespace

end SocketGateway
