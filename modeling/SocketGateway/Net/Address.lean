import SocketGateway.Text.Digit

/-!
# Network addresses

The numeric addresses of hosts in their two families, and of sockets, with their usual texts: four
octets, or eight groups of which the longest run of zeros is left out. Reading takes exactly what
the syntax allows: octets without leading zeros, at most four digits to a group, `::` for at least
one group, and four octets in place of the last two groups.
-/

namespace SocketGateway.Net

open SocketGateway.Text (isDigit number)

/-! ## Types -/

/-- The address of a host: four octets, or eight groups of 16 bits. -/
inductive Host where
  | v4 (octets : List UInt8)
  | v6 (groups : List UInt16)
deriving DecidableEq, Repr

/-- The address of a socket; only the longer family has a scope. -/
structure SocketAddress where
  host : Host
  scope : UInt32
  port : UInt16
deriving DecidableEq, Repr

/-! ## Reading -/

/-- Reads a number below `limit` of at most `maxDigits` digits, any number of them if that is
zero. -/
def readNumber (base maxDigits limit : Nat) (leadingZeros : Bool) (cs : List Char) :
    Option (Nat × List Char) :=
  let ds := cs.takeWhile (isDigit base)
  let n := number base ds
  if ds.isEmpty || (0 < maxDigits && maxDigits < ds.length) || limit ≤ n then none
  else if !leadingZeros && 1 < ds.length && ds.head? == some '0' then none
  else some (n, cs.drop ds.length)

def take? (want : Char) : List Char → Option (List Char)
  | c :: cs => if c = want then some cs else none
  | [] => none

def readOctets : Nat → List Char → Option (List UInt8 × List Char)
  | 0, cs => some ([], cs)
  | n + 1, cs => do
    let cs ← if n + 1 = 4 then some cs else take? '.' cs
    let (octet, cs) ← readNumber 10 3 256 false cs
    let (octets, cs) ← readOctets n cs
    some (octet.toUInt8 :: octets, cs)

/-- Reads groups up to `limit` of them; also says whether they end in four octets. -/
def readGroups (limit : Nat) : Nat → Nat → List Char → List UInt16 × Bool × List Char
  | 0, _, cs => ([], false, cs)
  | fuel + 1, i, cs =>
    if limit ≤ i then ([], false, cs)
    else
      match if i = 0 then some cs else take? ':' cs with
      | none => ([], false, cs)
      | some inner =>
        let octets? := if i + 1 < limit then readOctets 4 inner else none
        match octets? with
        | some ([a, b, c, d], rest) =>
          ([a.toUInt16 * 256 + b.toUInt16, c.toUInt16 * 256 + d.toUInt16], true, rest)
        | _ =>
          match readNumber 16 4 65536 true inner with
          | none => ([], false, cs)
          | some (g, rest) =>
            let (gs, mixed, rest) := readGroups limit fuel (i + 1) rest
            (g.toUInt16 :: gs, mixed, rest)

def readV6 (cs : List Char) : Option (List UInt16 × List Char) :=
  match readGroups 8 8 0 cs with
  | (head, mixed, rest) =>
    if head.length = 8 then some (head, rest)
    else if mixed then none
    else do
      let rest ← take? ':' rest
      let rest ← take? ':' rest
      let (tail, _, rest) := readGroups (7 - head.length) 8 0 rest
      some (head ++ List.replicate (8 - head.length - tail.length) 0 ++ tail, rest)

def Host.parse? (s : String) : Option Host :=
  match readOctets 4 s.toList with
  | some (octets, []) => some (.v4 octets)
  | _ =>
    match readV6 s.toList with
    | some (groups, []) => some (.v6 groups)
    | _ => none

def readPort (cs : List Char) : Option UInt16 := do
  let cs ← take? ':' cs
  let (n, rest) ← readNumber 10 0 65536 true cs
  if rest.isEmpty then some n.toUInt16 else none

/-- Reads the scope of a bracketed address, zero if it has none. -/
def readScope (cs : List Char) : Option (Nat × List Char) :=
  match cs with
  | '%' :: rest => readNumber 10 0 UInt32.size true rest
  | cs => some (0, cs)

def SocketAddress.parse? (s : String) : Option SocketAddress :=
  match readOctets 4 s.toList with
  | some (octets, rest) => (readPort rest).map fun port => ⟨.v4 octets, 0, port⟩
  | none => do
    let cs ← take? '[' s.toList
    let (groups, cs) ← readV6 cs
    let (scope, cs) ← readScope cs
    let cs ← take? ']' cs
    let port ← readPort cs
    some ⟨.v6 groups, scope.toUInt32, port⟩

/-! ## Writing -/

def octetsText (octets : List UInt8) : String :=
  ".".intercalate (octets.map fun b => toString b.toNat)

/-- The start and the length of the first longest run of zeros. -/
def longestZeros (groups : List UInt16) : Nat × Nat :=
  let runAt (i : Nat) : Nat := ((groups.drop i).takeWhile (· == 0)).length
  (List.range groups.length).foldl
    (fun best i => if best.2 < runAt i then (i, runAt i) else best) (0, 0)

def groupsText (groups : List UInt16) : String :=
  ":".intercalate (groups.map fun g => String.ofList (Nat.toDigits 16 g.toNat))

def Host.text : Host → String
  | .v4 octets => octetsText octets
  | .v6 groups =>
    match groups with
    | [0, 0, 0, 0, 0, 0xFFFF, x, y] =>
      "::ffff:" ++ octetsText ([x / 256, x % 256, y / 256, y % 256].map (·.toUInt8))
    | _ =>
      let (start, len) := longestZeros groups
      if 1 < len then
        groupsText (groups.take start) ++ "::" ++ groupsText (groups.drop (start + len))
      else groupsText groups

def SocketAddress.text (a : SocketAddress) : String :=
  match a.host with
  | .v4 _ => a.host.text ++ ":" ++ toString a.port.toNat
  | .v6 _ =>
    let scope := if a.scope = 0 then "" else "%" ++ toString a.scope.toNat
    "[" ++ a.host.text ++ scope ++ "]:" ++ toString a.port.toNat

def Host.loopback : Host := .v4 [127, 0, 0, 1]

def Host.any : Host := .v4 [0, 0, 0, 0]

end SocketGateway.Net
