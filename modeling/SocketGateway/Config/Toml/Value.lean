import SocketGateway.Decimal.Binary64
import SocketGateway.Table

/-!
# Documents of tables

The values of a configuration file, and the rules for building its tables. A table can be opened
by a header, by being on the way to one, by a dotted key, or be written inline; how it was opened
decides what may still be added to it, so that no table and no key is defined twice.
-/

namespace SocketGateway.Config.Toml

open SocketGateway.Decimal (Binary64)

/-! ## Types -/

/-- How a table came to be: on the way to the table of a header, by a dotted key, by a header of
its own, or as a value. -/
inductive Opening where
  | implied
  | dotted
  | header
  | inlined
deriving DecidableEq, Repr

/-- A value. Dates are kept as text; `tables` are those that headers in double brackets add. -/
inductive Value where
  | bool (b : Bool)
  | int (i : Int)
  | float (x : Binary64)
  | text (s : String)
  | array (items : List Value)
  | tables (elements : List (Opening × List (String × Value)))
  | table (opening : Opening) (members : List (String × Value))

/-- A table: how it came to be, and its members. -/
abbrev Members := Opening × List (String × Value)

def Members.empty : Members := (.header, [])

/-! ## Building tables -/

/-- Applies `f` to the table at the end of a path. Tables on the way that are missing are opened,
as dotted ones if the path is a dotted key. Of tables added one by one the last one counts. A value
that is no table, one written inline, and for a dotted key one that has a header, bar the way. -/
def descend (dotted : Bool) (f : Members → Option Members) : List String → Members → Option Members
  | [], t => f t
  | k :: path, (opening, ms) =>
    match Table.lookup k ms with
    | none =>
      match descend dotted f path (if dotted then .dotted else .implied, []) with
      | some (o, inner) => some (opening, Table.put k (.table o inner) ms)
      | none => none
    | some (.table o inner) =>
      if o = .inlined ∨ (dotted ∧ o = .header) then none
      else
        match descend dotted f path (o, inner) with
        | some (o, inner) => some (opening, Table.put k (.table o inner) ms)
        | none => none
    | some (.tables elements) =>
      match elements.getLast? with
      | none => none
      | some last =>
        match descend dotted f path last with
        | some last => some (opening, Table.put k (.tables (elements.dropLast ++ [last])) ms)
        | none => none
    | some _ => none

/-- Adds a value at a key that is free. Where the way was a dotted key, it must end in a table
opened by dotted keys. -/
def addKey (dotted : Bool) (k : String) (v : Value) : Members → Option Members
  | (opening, ms) =>
    if dotted ∧ opening ≠ .dotted then none
    else if (Table.lookup k ms).isSome then none
    else some (opening, ms ++ [(k, v)])

def addAt (path : List String) (k : String) (v : Value) (t : Members) : Option Members :=
  descend true (addKey (!path.isEmpty) k v) path t

/-- Opens a table by a header: it is new, or was only on the way to others so far. -/
def openTable (k : String) : Members → Option Members
  | (opening, ms) =>
    match Table.lookup k ms with
    | none => some (opening, ms ++ [(k, .table .header [])])
    | some (.table .implied inner) => some (opening, Table.put k (.table .header inner) ms)
    | some _ => none

def appendTable (k : String) : Members → Option Members
  | (opening, ms) =>
    match Table.lookup k ms with
    | none => some (opening, ms ++ [(k, .tables [Members.empty])])
    | some (.tables elements) =>
      some (opening, Table.put k (.tables (elements ++ [Members.empty])) ms)
    | some _ => none

/-! ## A document under construction -/

/-- The tables so far, and the path of the table that keys are added to. -/
structure Document where
  root : Members
  current : List String

namespace Document

def empty : Document := ⟨Members.empty, []⟩

def openHeader (d : Document) (isList : Bool) (path : List String) : Option Document :=
  match path.getLast? with
  | none => none
  | some k =>
    let f := if isList then appendTable k else openTable k
    (descend false f path.dropLast d.root).map fun root => ⟨root, path⟩

def add (d : Document) (path : List String) (k : String) (v : Value) : Option Document :=
  (descend false (addAt path k v) d.current d.root).map fun root => { d with root := root }

end Document

end SocketGateway.Config.Toml
