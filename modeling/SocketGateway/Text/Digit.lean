/-!
# Digits

The value of a digit in a base, and the number that digits form.
-/

namespace SocketGateway.Text

/-- The value of a digit in a base up to 16; letters count in both cases. -/
def digit? (base : Nat) (c : Char) : Option Nat :=
  let n := c.toNat
  let value :=
    if 0x30 ≤ n ∧ n ≤ 0x39 then n - 0x30
    else if 0x61 ≤ n ∧ n ≤ 0x66 then n - 0x61 + 10
    else if 0x41 ≤ n ∧ n ≤ 0x46 then n - 0x41 + 10
    else base
  if value < base then some value else none

def isDigit (base : Nat) (c : Char) : Bool := (digit? base c).isSome

def number (base : Nat) (cs : List Char) : Nat :=
  cs.foldl (fun n c => n * base + (digit? base c).getD 0) 0

example : number 16 "ff".toList = 255 ∧ digit? 10 'a' = none := by decide

end SocketGateway.Text
