import SocketGateway.Decimal.Layout

/-!
# JSON values

The values that events carry. A number is an integer or a double, and the two stay apart: `1` and
`1.0` are different values. An object is the list of its members in the order read; `canonical`
gives the form that is kept and written, in which the keys ascend and are distinct.
-/

namespace SocketGateway.Json

open SocketGateway.Decimal (Binary64)

/-! ## The types -/

/-- A number as written: without a point and an exponent an integer of 64 bits, else a double. -/
inductive Number where
  | int (i : Int)
  | float (x : Binary64)
deriving DecidableEq, Repr

/-- A JSON value. -/
inductive Value where
  | null
  | bool (b : Bool)
  | number (n : Number)
  | string (s : String)
  | array (items : List Value)
  | object (members : List (String × Value))
deriving Repr

instance : Inhabited Value := ⟨.null⟩

namespace Value

def int (i : Int) : Value := .number (.int i)

/-! ## Canonical form -/

/-- Adds a member in front of members that came after it: a later member of the same key stays
and the earlier one is lost. The members are kept in ascending order of keys. -/
def addMember (k : String) (v : α) : List (String × α) → List (String × α)
  | [] => [(k, v)]
  | (k', v') :: rest =>
    if k < k' then (k, v) :: (k', v') :: rest
    else if k = k' then (k', v') :: rest
    else (k', v') :: addMember k v rest

mutual

/-- The value with the keys of every object ascending and distinct; of members with one key the
last one counts. -/
def canonical : Value → Value
  | .array items => .array (canonicalItems items [])
  | .object members => .object ((canonicalMembers members []).foldl (fun ms m => addMember m.1 m.2 ms) [])
  | v => v

def canonicalItems : List Value → List Value → List Value
  | [], acc => acc.reverse
  | v :: vs, acc => canonicalItems vs (canonical v :: acc)

def canonicalMembers : List (String × Value) → List (String × Value) → List (String × Value)
  | [], acc => acc
  | (k, v) :: ms, acc => canonicalMembers ms ((k, canonical v) :: acc)

end

end Value

end SocketGateway.Json
