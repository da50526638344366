import SocketGateway.Config.Error
import SocketGateway.Decimal.Binary64
import SocketGateway.Table
import SocketGateway.Text.Digit

/-!
# Configuration trees

All that files and environment say is put together in one tree. A source adds values at paths such
as `gateway.namespaces[1]`: tables are merged key by key, anything else replaces what was there.
A value remembers its origin; a table that was merged has none.
-/

namespace SocketGateway.Config

open SocketGateway.Decimal (Binary64)

/-! ## The type -/

/-- What stands at a place of the tree. -/
inductive Node where
  | nil
  | bool (b : Bool)
  | int (i : Int)
  | float (x : Binary64)
  | string (s : String)
  | array (items : List (Option Origin × Node))
  | table (members : List (String × Option Origin × Node))

/-- A node with the place it came from. -/
abbrev Value := Option Origin × Node

namespace Value

def nil : Value := (none, .nil)

def empty : Value := (none, .table [])

end Value

/-! ## Paths -/

/-- One step into the tree: to a key of a table, or to an item of a list; negative indices count
from the end. -/
inductive Step where
  | key (k : String)
  | index (i : Int)
deriving DecidableEq, Repr

namespace Step

def isKeyChar (c : Char) : Bool :=
  c.isAlphanum || c == '_' || c == '-'

def readIndex? (cs : List Char) : Option (Int × List Char) :=
  let (neg, cs) := match cs with
    | '-' :: cs => (true, cs)
    | cs => (false, cs)
  let ds := cs.takeWhile (Text.isDigit 10)
  let n : Int := Text.number 10 ds
  let i := if neg then -n else n
  match cs.drop ds.length with
  | ']' :: rest =>
    if ds.isEmpty || i < Int64.minValue.toInt || Int64.maxValue.toInt < i then none else some (i, rest)
  | _ => none

def readMore? : Nat → List Char → Option (List Step)
  | 0, _ => none
  | _ + 1, [] => some []
  | fuel + 1, '.' :: cs =>
    let k := cs.takeWhile isKeyChar
    if k.isEmpty then none
    else (readMore? fuel (cs.drop k.length)).map (.key (String.ofList k) :: ·)
  | fuel + 1, '[' :: cs =>
    match readIndex? cs with
    | some (i, rest) => (readMore? fuel rest).map (.index i :: ·)
    | none => none
  | _ + 1, _ => none

/-- The path that a text names: keys with points between them, and indices in brackets. A text
that is no such path is one key. -/
def path (s : String) : List Step :=
  let cs := s.toList
  let k := cs.takeWhile isKeyChar
  let more? := if k.isEmpty then none else readMore? (cs.length + 1) (cs.drop k.length)
  match more? with
  | some steps => .key (String.ofList k) :: steps
  | none => [.key s]

end Step

namespace Value

/-! ## Putting values in place -/

/-- Applies `f` to the item at an index. A list that is too short is filled up with nothing, at the
end, or at the front for an index that counts from the end. -/
def modifyItem (f : Value → Value) (i : Int) (items : List Value) : List Value :=
  if 0 ≤ i then
    let items := items ++ List.replicate (i.toNat + 1 - items.length) nil
    items.modify i.toNat f
  else
    let back := i.natAbs
    let items := List.replicate (back - items.length) nil ++ items
    items.modify (items.length - back) f

/-- Applies `f` to what stands at the end of a path. Where the way leads through something that is
no table, or no list, that is replaced by an empty one. -/
def modifyAt (f : Value → Value) : List Step → Value → Value
  | [], v => f v
  | .key k :: path, v =>
    let (origin, ms) := match v with
      | (origin, .table ms) => (origin, ms)
      | _ => (none, [])
    let old := (Table.lookup k ms).getD nil
    (origin, .table (Table.put k (modifyAt f path old) ms))
  | .index i :: path, v =>
    let (origin, items) := match v with
      | (origin, .array items) => (origin, items)
      | _ => (none, [])
    (origin, .array (modifyItem (modifyAt f path) i items))

mutual

/-- Puts a node in the place of `old`: a table is merged into it, anything else replaces it. -/
def assign (origin : Option Origin) : Node → Value → Value
  | .table ms, old =>
    match old with
    | (o, .table base) => (o, .table (assignAll ms base))
    | _ => (none, .table (assignAll ms []))
  | n, _ => (origin, n)

def assignAll : List (String × Option Origin × Node) → List (String × Value) →
    List (String × Value)
  | [], base => base
  | (k, o, n) :: ms, base =>
    assignAll ms (Table.put k (assign o n ((Table.lookup k base).getD nil)) base)

end

def set (root : Value) (key : String) (v : Value) : Value :=
  modifyAt (assign v.1 v.2) (Step.path key) root

def setAll (root : Value) (entries : List (String × Value)) : Value :=
  entries.foldl (fun root e => root.set e.1 e.2) root

end Value

end SocketGateway.Config
