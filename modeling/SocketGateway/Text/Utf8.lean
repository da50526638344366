/-!
# UTF-8

Characters as bytes and back. `lead` says what the front of a byte sequence holds: a character,
the start of one that the sequence cuts off, or bytes that no character begins with. Strict
reading, reading that may stop inside a character and reading with replacement all go by it.
-/

namespace SocketGateway.Text.Utf8

/-! ## Writing -/

def encode (s : String) : List UInt8 := s.toUTF8.toList

/-! ## The front of a byte sequence -/

/-- What a byte sequence begins with. `broken` carries the number of bytes that belong together
as the longest beginning of a character. -/
inductive Lead where
  | char (c : Char) (width : Nat)
  | cut
  | broken (width : Nat)
deriving DecidableEq, Repr

/-- A byte that continues a character. -/
def isTail (b : UInt8) : Bool := 0x80 ≤ b && b ≤ 0xBF

/-- The bytes that may follow a first byte of a character of three or four bytes. -/
def secondRange (b : UInt8) : UInt8 × UInt8 :=
  if b == 0xE0 then (0xA0, 0xBF)
  else if b == 0xED then (0x80, 0x9F)
  else if b == 0xF0 then (0x90, 0xBF)
  else if b == 0xF4 then (0x80, 0x8F)
  else (0x80, 0xBF)

/-- The six low bits that a continuing byte carries. -/
def payload (b : UInt8) : Nat := b.toNat % 64

def lead : List UInt8 → Lead
  | [] => .cut
  | b :: rest =>
    if b < 0x80 then .char (Char.ofNat b.toNat) 1
    else if b < 0xC2 then .broken 1
    else if b < 0xE0 then
      match rest with
      | [] => .cut
      | c :: _ =>
        if isTail c then .char (Char.ofNat (b.toNat % 32 * 64 + payload c)) 2 else .broken 1
    else if b < 0xF0 then
      let (lo, hi) := secondRange b
      match rest with
      | [] => .cut
      | c :: rest =>
        if c < lo || hi < c then .broken 1
        else match rest with
          | [] => .cut
          | d :: _ =>
            if isTail d then
              .char (Char.ofNat ((b.toNat % 16 * 64 + payload c) * 64 + payload d)) 3
            else .broken 2
    else if b < 0xF5 then
      let (lo, hi) := secondRange b
      match rest with
      | [] => .cut
      | c :: rest =>
        if c < lo || hi < c then .broken 1
        else match rest with
          | [] => .cut
          | d :: rest =>
            if !isTail d then .broken 2
            else match rest with
              | [] => .cut
              | e :: _ =>
                if isTail e then
                  .char (Char.ofNat
                    (((b.toNat % 8 * 64 + payload c) * 64 + payload d) * 64 + payload e)) 4
                else .broken 3
    else .broken 1

/-! ## Reading -/

/-- How a byte sequence ends: between characters, inside one, or at bytes that are no UTF-8. -/
inductive Ending where
  | complete
  | cut
  | broken
deriving DecidableEq, Repr

def scan : Nat → List UInt8 → List Char → List Char × Ending
  | 0, _, acc => (acc, .complete)
  | _ + 1, [], acc => (acc, .complete)
  | fuel + 1, bs, acc =>
    match lead bs with
    | .char c width => scan fuel (bs.drop width) (c :: acc)
    | .cut => (acc, .cut)
    | .broken _ => (acc, .broken)

def ending (bs : List UInt8) : Ending := (scan bs.length bs []).2

def decode? (bs : List UInt8) : Option String :=
  match scan bs.length bs [] with
  | (acc, .complete) => some (String.ofList acc.reverse)
  | _ => none

/-- Reading with replacement: each longest beginning of a character that does not go on becomes
one replacement character. -/
def repair : Nat → List UInt8 → List Char → List Char
  | 0, _, acc => acc
  | _ + 1, [], acc => acc
  | fuel + 1, bs, acc =>
    match lead bs with
    | .char c width => repair fuel (bs.drop width) (c :: acc)
    | .cut => '\uFFFD' :: acc
    | .broken width => repair fuel (bs.drop width) ('\uFFFD' :: acc)

def decodeLossy (bs : List UInt8) : String :=
  String.ofList (repair bs.length bs []).reverse

example : decode? [0x61, 0xC3, 0xA9, 0xF0, 0x9F, 0x98, 0x80] = some "aé😀" := by decide
example : ending [0xE2, 0x82] = .cut ∧ ending [0xC0, 0x80] = .broken := by decide

end SocketGateway.Text.Utf8
