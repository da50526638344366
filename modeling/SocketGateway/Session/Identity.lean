/-!
# Ids of connections

Every connection has an id of its own, in the form of a random UUID. The ids of a gateway are
numbered through, so that no two of them are equal.
-/

namespace SocketGateway.Identity

def digits (n : Nat) : List Char :=
  let ds := Nat.toDigits 10 n
  List.replicate (12 - ds.length) '0' ++ ds

def ofNumber (n : Nat) : String := "00000000-0000-4000-8000-" ++ String.ofList (digits n)

def width : Nat := 36

example : ofNumber 7 = "00000000-0000-4000-8000-000000000007" ∧
    (ofNumber 7).length = width := by decide

end SocketGateway.Identity
