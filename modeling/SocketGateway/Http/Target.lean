import SocketGateway.Http.Head

/-!
# Targets and addresses

A target is a path, an authority, or an absolute address with a scheme. The same reader serves the
first line of a request and the address that a client connects to.
-/

namespace SocketGateway.Http

/-- A target. `authority` is empty if there is none; `path` and `query` are as written, without a
fragment, and the query starts with its question mark. -/
structure Target where
  scheme : Option String
  authority : String
  path : String
  query : String
deriving DecidableEq, Repr

namespace Target

/-! ## Characters -/

def isSchemeByte (b : UInt8) : Bool :=
  let c := Char.ofNat b.toNat
  c.isAlphanum || c == '+' || c == '-' || c == '.'

def isAuthorityByte (b : UInt8) : Bool :=
  let c := Char.ofNat b.toNat
  c.isAlphanum || ['!', '$', '&', '\'', '(', ')', '*', '+', ',', '-', '.', ';', '=', '_', '~'].contains c

def isPathByte (b : UInt8) : Bool :=
  b == 0x21 || (0x24 ≤ b && b ≤ 0x3B) || b == 0x3D || (0x40 ≤ b && b ≤ 0x5F) ||
  (0x61 ≤ b && b ≤ 0x7E) || 0x7F ≤ b || b == 0x22

def isQueryByte (b : UInt8) : Bool :=
  b == 0x21 || (0x24 ≤ b && b ≤ 0x3B) || b == 0x3D || 0x3F ≤ b

/-! ## Schemes -/

def schemeLimit : Nat := 64

def takeScheme (bytes : List UInt8) : Except UriFault (Option (List UInt8) × List UInt8) :=
  let (scheme, rest) := spanBytes isSchemeByte bytes
  match rest with
  | 58 :: 47 :: 47 :: rest =>
    if bytes.length ≤ 3 then .ok (none, bytes)
    else if schemeLimit < scheme.length then .error .schemeTooLong
    else .ok (some scheme, rest)
  | _ => .ok (none, bytes)

/-! ## Authorities -/

/-- What was met so far in an authority: colons and percent signs that are not in names of users
or in brackets, and brackets. -/
structure Survey where
  colons : Nat
  percent : Bool
  opened : Bool
  closed : Bool
  afterAt : Bool

/-- The length of the authority at the front of a text; it ends at a path, query or fragment. -/
def authorityEnd : Survey → Nat → List UInt8 → Except UriFault Nat
  | s, n, [] => conclude s n
  | s, n, b :: bytes =>
    if b == 47 || b == 63 || b == 35 then conclude s n
    else if b == 58 then
      if 8 ≤ s.colons then .error .authority
      else authorityEnd { s with colons := s.colons + 1, afterAt := false } (n + 1) bytes
    else if b == 91 then
      if s.percent || s.opened then .error .authority
      else authorityEnd { s with opened := true, afterAt := false } (n + 1) bytes
    else if b == 93 then
      if !s.opened || s.closed then .error .authority
      else
        authorityEnd { s with closed := true, colons := 0, percent := false, afterAt := false }
          (n + 1) bytes
    else if b == 64 then
      authorityEnd { s with colons := 0, percent := false, afterAt := true } (n + 1) bytes
    else if b == 37 then authorityEnd { s with percent := true, afterAt := false } (n + 1) bytes
    else if isAuthorityByte b then authorityEnd { s with afterAt := false } (n + 1) bytes
    else .error .character
where
  /-- Looks at the whole: brackets in pairs, at most one port, a host after the name of a user. -/
  conclude (s : Survey) (n : Nat) : Except UriFault Nat :=
    if s.opened != s.closed || 1 < s.colons || s.afterAt || s.percent then .error .authority
    else .ok n

/-- Takes the authority from the front of a text that must not be empty. -/
def takeAuthority (bytes : List UInt8) : Except UriFault (List UInt8 × List UInt8) :=
  if bytes.isEmpty then .error .empty
  else
    (authorityEnd ⟨0, false, false, false, false⟩ 0 bytes).map fun n => (bytes.take n, bytes.drop n)

/-! ## Paths -/

def splitPath (bytes : List UInt8) : Except UriFault (List UInt8 × List UInt8) :=
  let (path, rest) := spanBytes isPathByte bytes
  match rest with
  | [] | 35 :: _ => .ok (path, [])
  | 63 :: rest =>
    let (query, rest) := spanBytes isQueryByte rest
    match rest with
    | [] | 35 :: _ => .ok (path, 63 :: query)
    | _ => .error .character
  | _ => .error .character

/-! ## Targets -/

def sizeLimit : Nat := 65534

def textOf (bytes : List UInt8) : String := Text.Utf8.decodeLossy bytes

def parseFull (bytes : List UInt8) : Except UriFault Target := do
  let (scheme, rest) ← takeScheme bytes
  let (authority, rest) ← takeAuthority rest
  match scheme with
  | none => if rest.isEmpty then .ok ⟨none, textOf authority, "", ""⟩ else .error .format
  | some scheme =>
    if authority.isEmpty then .error .format
    else
      let (path, query) ← splitPath rest
      .ok ⟨some (textOf scheme), textOf authority, textOf path, textOf query⟩

def parse (s : String) : Except UriFault Target := do
  let bytes := Text.Utf8.encode s
  if sizeLimit < bytes.length then .error .tooLong
  else
    match bytes with
    | [] => .error .empty
    | [42] => .ok ⟨none, "", "*", ""⟩
    | 47 :: _ =>
      let (path, query) ← splitPath bytes
      .ok ⟨none, "", textOf path, textOf query⟩
    | [_] =>
      let (authority, rest) ← takeAuthority bytes
      if rest.isEmpty then .ok ⟨none, textOf authority, "", ""⟩ else .error .character
    | _ => parseFull bytes

/-- The path of a target. An absolute address without one has the root; an authority has none. -/
def pathText (t : Target) : String :=
  if t.path.isEmpty && t.scheme.isSome then "/" else t.path

def requestText (t : Target) : String :=
  let s := t.path ++ t.query
  if s.isEmpty then "/" else s

/-- What follows the name of a user in the authority. -/
def hostAndPort (t : Target) : String :=
  String.ofList ((t.authority.toList.reverse.takeWhile (· ≠ '@')).reverse)

end Target

end SocketGateway.Http
