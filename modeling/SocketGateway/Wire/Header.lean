import SocketGateway.Wire.Frame

/-!
# Frame headers

A frame starts with a byte that says of what kind it is and whether the message ends with it, and
the length of its payload in the fewest bytes out of three forms. What a client sends is masked:
four bytes of the header are mixed into the payload over and over.
-/

namespace SocketGateway.Wire

/-! ## Masks -/

structure Mask where
  a : UInt8
  b : UInt8
  c : UInt8
  d : UInt8
deriving DecidableEq, Repr

namespace Mask

def bytes (m : Mask) : List UInt8 := [m.a, m.b, m.c, m.d]

def turn (m : Mask) : Mask := ⟨m.b, m.c, m.d, m.a⟩

/-- Mixes a mask into a payload; `done` holds what is mixed already, latest first. -/
def mixInto (m : Mask) (done : List UInt8) : List UInt8 → List UInt8
  | [] => done.reverse
  | x :: xs => mixInto m.turn ((x ^^^ m.a) :: done) xs

/-- Mixes a mask into a payload. Doing it twice gives the payload back. -/
def mix (m : Mask) (payload : List UInt8) : List UInt8 := m.mixInto [] payload

theorem mixInto_eq (m : Mask) (done xs : List UInt8) :
    m.mixInto done xs = done.reverse ++ m.mix xs := by
  suffices h : ∀ (xs : List UInt8) (m : Mask) (done : List UInt8),
      m.mixInto done xs = done.reverse ++ m.mixInto [] xs from h xs m done
  intro xs
  induction xs with
  | nil => simp [mixInto]
  | cons x xs ih =>
    intro m done
    simp only [mixInto]
    rw [ih, ih _ [x ^^^ m.a]]
    simp

@[simp] theorem mix_cons (m : Mask) (x : UInt8) (xs : List UInt8) :
    m.mix (x :: xs) = (x ^^^ m.a) :: m.turn.mix xs := by
  show m.turn.mixInto [x ^^^ m.a] xs = _
  rw [mixInto_eq]
  rfl

@[simp] theorem mix_mix (m : Mask) (xs : List UInt8) : m.mix (m.mix xs) = xs := by
  induction xs generalizing m with
  | nil => rfl
  | cons x xs ih =>
    rw [mix_cons, mix_cons, ih, UInt8.xor_assoc, UInt8.xor_self, UInt8.xor_zero]

end Mask

/-! ## Headers -/

/-- What the header of a frame says. `first` is its first byte. -/
structure Header where
  first : UInt8
  mask : Option Mask
  length : Nat
deriving DecidableEq, Repr

namespace Header

def isFinal (h : Header) : Bool := h.first &&& 0x80 != 0

def hasReserved (h : Header) : Bool := h.first &&& 0x70 != 0

def opcode (h : Header) : UInt8 := h.first &&& 0x0F

/-- The number that `bytes` are, the highest first. -/
def number (bytes : List UInt8) : Nat := bytes.foldl (fun n b => 256 * n + b.toNat) 0

/-- The lowest `width` bytes of a number, the highest first. -/
def bytesOf : Nat → Nat → List UInt8
  | 0, _ => []
  | width + 1, n => bytesOf width (n / 256) ++ [(n % 256).toUInt8]

def take? (n : Nat) (bytes : List UInt8) : Option (List UInt8 × List UInt8) :=
  let front := bytes.take n
  if front.length = n then some (front, bytes.drop n) else none

def read? (bytes : List UInt8) : Option (Header × List UInt8) :=
  match bytes with
  | first :: second :: rest => do
    let (length, rest) ← match second &&& 0x7F with
      | 126 => (take? 2 rest).map fun (n, rest) => (number n, rest)
      | 127 => (take? 8 rest).map fun (n, rest) => (number n, rest)
      | n => some (n.toNat, rest)
    if second &&& 0x80 != 0 then
      match rest with
      | a :: b :: c :: d :: rest => some (⟨first, some ⟨a, b, c, d⟩, length⟩, rest)
      | _ => none
    else some (⟨first, none, length⟩, rest)
  | _ => none

def encode (h : Header) : List UInt8 :=
  let bit : UInt8 := if h.mask.isSome then 0x80 else 0
  let length :=
    if h.length < 126 then [bit ||| h.length.toUInt8]
    else if h.length < 65536 then (bit ||| 126) :: bytesOf 2 h.length
    else (bit ||| 127) :: bytesOf 8 h.length
  let mask := match h.mask with
    | some m => m.bytes
    | none => []
  h.first :: (length ++ mask)

example : read? (encode ⟨0x81, some ⟨1, 2, 3, 4⟩, 70000⟩ ++ [9]) =
    some (⟨0x81, some ⟨1, 2, 3, 4⟩, 70000⟩, [9]) := by decide

end Header

end SocketGateway.Wire
