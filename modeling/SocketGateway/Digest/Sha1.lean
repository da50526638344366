import SocketGateway.Wire.Header

/-!
# SHA-1

The digest of 160 bits by which an upgrade is confirmed. A message is filled up to blocks of 64
bytes, and each block is mixed in 80 rounds into five words.
-/

namespace SocketGateway.Digest.Sha1

/-! ## Words -/

structure State where
  a : UInt32
  b : UInt32
  c : UInt32
  d : UInt32
  e : UInt32
deriving DecidableEq, Repr

def State.initial : State := ⟨0x67452301, 0xEFCDAB89, 0x98BADCFE, 0x10325476, 0xC3D2E1F0⟩

def State.add (s t : State) : State := ⟨s.a + t.a, s.b + t.b, s.c + t.c, s.d + t.d, s.e + t.e⟩

def rotate (n : UInt32) (w : UInt32) : UInt32 := (w <<< n) ||| (w >>> (32 - n))

/-- The words that bytes are, four bytes each, the highest first. -/
def words : List UInt8 → List UInt32
  | a :: b :: c :: d :: rest => (Wire.Header.number [a, b, c, d]).toUInt32 :: words rest
  | _ => []

/-! ## Padding -/

/-- A message filled up to whole blocks: a one bit, zeros, and its length in bits. -/
def pad (message : List UInt8) : List UInt8 :=
  let n := message.length
  message ++ 0x80 :: List.replicate ((119 - n % 64) % 64) 0 ++ Wire.Header.bytesOf 8 (8 * n)

/-- A padded message has whole blocks. -/
theorem length_pad (message : List UInt8) : (pad message).length % 64 = 0 := by
  have h : ∀ w n, (Wire.Header.bytesOf w n).length = w := by
    intro w
    induction w with
    | zero => intro n; rfl
    | succ w ih => intro n; simp [Wire.Header.bytesOf, ih]
  simp only [pad, List.length_append, List.length_cons, List.length_replicate, h]
  omega

/-! ## Rounds -/

/-- The words of the rounds after the first sixteen: each comes from four of the sixteen before
it, which `window` holds. -/
def extend : Nat → List UInt32 → List UInt32
  | 0, _ => []
  | n + 1, window =>
    let w := rotate 1 (window.getD 13 0 ^^^ window.getD 8 0 ^^^ window.getD 2 0 ^^^ window.getD 0 0)
    w :: extend n (window.drop 1 ++ [w])

/-- The words of the 80 rounds of a block. -/
def schedule (block : List UInt8) : List UInt32 :=
  let ws := words block
  ws ++ extend 64 ws

def round (s : State) (i : Nat) (w : UInt32) : State :=
  let (f, k) :=
    if i < 20 then ((s.b &&& s.c) ||| (~~~s.b &&& s.d), (0x5A827999 : UInt32))
    else if i < 40 then (s.b ^^^ s.c ^^^ s.d, 0x6ED9EBA1)
    else if i < 60 then ((s.b &&& s.c) ||| (s.b &&& s.d) ||| (s.c &&& s.d), 0x8F1BBCDC)
    else (s.b ^^^ s.c ^^^ s.d, 0xCA62C1D6)
  ⟨rotate 5 s.a + f + s.e + k + w, s.a, rotate 30 s.b, s.c, s.d⟩

def rounds : Nat → State → List UInt32 → State
  | _, s, [] => s
  | i, s, w :: ws => rounds (i + 1) (round s i w) ws

/-- Mixes blocks into a state, at most `fuel` of them. -/
def absorb : Nat → State → List UInt8 → State
  | 0, s, _ => s
  | fuel + 1, s, bytes =>
    if bytes.isEmpty then s
    else absorb fuel (s.add (rounds 0 s (schedule (bytes.take 64)))) (bytes.drop 64)

def State.bytes (s : State) : List UInt8 :=
  [s.a, s.b, s.c, s.d, s.e].flatMap fun w => Wire.Header.bytesOf 4 w.toNat

/-- The digest of a message, of 20 bytes. -/
def digest (message : List UInt8) : List UInt8 :=
  let padded := pad message
  (absorb (padded.length / 64) State.initial padded).bytes

end SocketGateway.Digest.Sha1
